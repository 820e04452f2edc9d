import Mathlib
import ChallengeDns.Address.Reader
import ChallengeDns.Proofs.Text.Digits

/-!
# Addresses are read back

An address is read back from its text, however zero groups were left out of it.  The zone that an
address may have is no part of what is read without one, so the text of an address with a zone is
not read at all.
-/
namespace ChallengeDns

namespace Text

variable {c : CodePoint}

/-! ### Pieces -/

theorem splitAt_append {p : Text} (free : c ∉ p) (t : Text) :
    splitAt c (p ++ c :: t) = p :: splitAt c t := by
  induction p with
  | nil => simp [splitAt]
  | cons d p ih =>
    rw [List.mem_cons, not_or] at free
    rw [List.cons_append, splitAt, if_neg (Ne.symm free.1), ih free.2]

theorem splitAt_of_notMem {p : Text} (free : c ∉ p) : splitAt c p = [p] := by
  induction p with
  | nil => rfl
  | cons d p ih =>
    rw [List.mem_cons, not_or] at free
    rw [splitAt, if_neg (Ne.symm free.1), ih free.2]

/-- The pieces that are read where pieces were written: without any there is an empty one. -/
def orEmpty : List Text → List Text
  | [] => [[]]
  | p :: ps => p :: ps

theorem splitAt_join {ps : List Text} (free : ∀ p ∈ ps, c ∉ p) :
    splitAt c (join [c] ps) = orEmpty ps := by
  induction ps with
  | nil => rfl
  | cons p ps ih =>
    obtain ⟨first, others⟩ := List.forall_mem_cons.mp free
    cases ps with
    | nil => exact splitAt_of_notMem first
    | cons q ps =>
      have step : join [c] (p :: q :: ps) = p ++ c :: join [c] (q :: ps) := by simp [join]
      rw [step, splitAt_append first, ih others]
      rfl

theorem splitAt_join_append {ps : List Text} (free : ∀ p ∈ ps, c ∉ p) (t : Text) :
    splitAt c (join [c] ps ++ c :: t) = orEmpty ps ++ splitAt c t := by
  induction ps with
  | nil => simp [join, splitAt, orEmpty]
  | cons p ps ih =>
    obtain ⟨first, others⟩ := List.forall_mem_cons.mp free
    cases ps with
    | nil => exact splitAt_append first t
    | cons q ps =>
      have step : join [c] (p :: q :: ps) ++ c :: t = p ++ c :: (join [c] (q :: ps) ++ c :: t) := by
        simp [join]
      rw [step, splitAt_append first, ih others]
      rfl

/-- A code point of a text is the one between the pieces or stands in a piece. -/
theorem exists_mem_splitAt {d : CodePoint} (other : d ≠ c) {t : Text} (member : d ∈ t) :
    ∃ p ∈ splitAt c t, d ∈ p := by
  induction t with
  | nil => cases member
  | cons e t ih =>
    -- A separator closes the first piece; any other character joins it.
    rw [splitAt]
    split
    · next equal =>
      rcases List.mem_cons.mp member with rfl | later
      · exact absurd equal other
      · obtain ⟨p, inside, found⟩ := ih later
        exact ⟨p, List.mem_cons_of_mem _ inside, found⟩
    · cases pieces : splitAt c t with
      | nil =>
        rcases List.mem_cons.mp member with rfl | later
        · exact ⟨[d], by simp, by simp⟩
        · obtain ⟨p, inside, _⟩ := ih later
          rw [pieces] at inside
          cases inside
      | cons p ps =>
        rcases List.mem_cons.mp member with rfl | later
        · exact ⟨d :: p, by simp, by simp⟩
        · obtain ⟨q, inside, found⟩ := ih later
          rw [pieces] at inside
          rcases List.mem_cons.mp inside with rfl | others
          · exact ⟨e :: q, by simp, by simp [found]⟩
          · exact ⟨q, by simp [others], found⟩

end Text

namespace Address

open Text

/-! ### IPv4 -/

theorem octet?_ofNat : ∀ b : Fin 256, octet? (Text.ofNat b) = some b.val := by
  decide +kernel

theorem octet_apart : ∀ b : Fin 256, (.scalar '.') ∉ Text.ofNat b := by
  decide +kernel

theorem readV4?_text (bits : BitVec 32) : readV4? (Address.v4 bits).text = some bits := by
  have small := bits.isLt
  have apart : ∀ p ∈ (octets 4 bits.toNat).map fun b => Text.ofNat b.toNat, (.scalar '.') ∉ p := by
    intro p member
    obtain ⟨b, -, rfl⟩ := List.mem_map.mp member
    exact octet_apart ⟨b.toNat, b.toNat_lt⟩
  have read (b : UInt8) : octet? (Text.ofNat b.toNat) = some b.toNat :=
    octet?_ofNat ⟨b.toNat, b.toNat_lt⟩
  have pieces : splitAt (.scalar '.') (Address.v4 bits).text = _ := splitAt_join apart
  rw [readV4?, pieces]
  simp only [octets, List.nil_append, List.cons_append, List.map_cons, List.map_nil, orEmpty, read,
    Option.bind_eq_bind, Option.bind_some, Option.pure_def, Option.some.injEq]
  apply BitVec.eq_of_toNat_eq
  rw [BitVec.toNat_ofNat]
  simp only [Nat.toUInt8_eq, UInt8.toNat_ofNat']
  omega

/-- Only digits and points are in what is read as an IPv4 address. -/
theorem readV4?_of_mem {t : Text} {c : CodePoint} (member : c ∈ t) (point : c ≠ .scalar '.')
    (other : c.digit? = none) : readV4? t = none := by
  obtain ⟨p, inside, found⟩ := exists_mem_splitAt point member
  have bad : octet? p = none := by
    have mixed : isNumber p = false := by
      rw [isNumber, Bool.and_eq_false_iff]
      exact Or.inr (List.all_eq_false.mpr ⟨c, found, by simp [other]⟩)
    rw [octet?, mixed]
    rfl
  rw [readV4?]
  split
  · next w x y z pieces =>
    rw [pieces] at inside
    simp only [List.mem_cons, List.not_mem_nil, or_false] at inside
    rcases inside with rfl | rfl | rfl | rfl <;> simp [bad]
  · rfl

/-! ### Groups -/

theorem hex_one (n : Nat) : Text.hex 1 n = ofChars (Nat.toDigits 16 n) := by
  have full : 1 - (Nat.toDigits 16 n).length = 0 :=
    Nat.sub_eq_zero_of_le Nat.length_toDigits_pos
  simp [Text.hex, full]

theorem hex_ne_nil (n : Nat) : Text.hex 1 n ≠ [] := by
  rw [hex_one]
  exact List.map_eq_nil_iff.not.mpr Nat.toDigits_ne_nil

/-- The code points that groups are written with. -/
theorem mem_hex {n : Nat} {c : CodePoint} (member : c ∈ Text.hex 1 n) :
    ∃ d < 16, c = .scalar (Nat.digitChar d) := by
  rw [hex_one] at member
  induction n using Nat.strong_induction_on with
  | _ n ih =>
    rw [Nat.toDigits_eq_if (by decide)] at member
    split at member
    · next small => exact ⟨n, small, List.mem_singleton.mp member⟩
    · next large =>
      rw [ofChars, List.map_append, List.mem_append] at member
      rcases member with before | last
      · exact ih (n / 16) (by omega) before
      · exact ⟨n % 16, Nat.mod_lt _ (by decide), List.mem_singleton.mp last⟩

theorem notMem_hex {c : CodePoint} (other : ∀ d < 16, c ≠ .scalar (Nat.digitChar d)) (n : Nat) :
    c ∉ Text.hex 1 n := by
  intro member
  obtain ⟨d, small, equal⟩ := mem_hex member
  exact other d small equal

/-- One more digit of a group. -/
def digitStep (n : Option Nat) (c : CodePoint) : Option Nat := do
  let n ← n
  let ch ← c.char?
  let d ← Table.hexDigit? ch
  return n * 16 + d

theorem group?_eq {t : Text} (filled : t ≠ []) (short : t.length ≤ 4) :
    group? t = t.foldl digitStep (some 0) := by
  rw [group?, if_neg]
  · rfl
  · simp [filled, short]

theorem digitStep_digitChar (n : Nat) {d : Nat} (small : d < 16) :
    digitStep (some n) (.scalar (Nat.digitChar d)) = some (n * 16 + d) := by
  have digit : ∀ d : Fin 16, Table.hexDigit? (Nat.digitChar d) = some d.val := by decide
  simp [digitStep, CodePoint.char?, digit ⟨d, small⟩]

theorem foldl_hex (n : Nat) : (Text.hex 1 n).foldl digitStep (some 0) = some n := by
  rw [hex_one]
  induction n using Nat.strong_induction_on with
  | _ n ih =>
    rw [Nat.toDigits_eq_if (by decide)]
    split
    · next small => exact (digitStep_digitChar 0 small).trans (by simp)
    · next large =>
      rw [ofChars, List.map_append, List.foldl_append]
      erw [ih (n / 16) (by omega)]
      rw [List.map_singleton, List.foldl_cons, List.foldl_nil,
        digitStep_digitChar _ (Nat.mod_lt _ (by decide))]
      congr 1
      omega

theorem group?_hex {n : Nat} (small : n < 65536) : group? (Text.hex 1 n) = some n := by
  have short : (Text.hex 1 n).length ≤ 4 := by
    rw [hex_one, ofChars, List.length_map]
    exact (Nat.length_toDigits_le_iff (by decide) (by decide)).mpr small
  rw [group?_eq (hex_ne_nil n) short, foldl_hex]

theorem group?_of_mem {t : Text} {c : CodePoint} (member : c ∈ t)
    (other : c.char?.bind Table.hexDigit? = none) : group? t = none := by
  have none_stays (t : Text) : t.foldl digitStep none = none := by
    induction t with
    | nil => rfl
    | cons c t ih => exact ih
  have bad (n : Option Nat) : t.foldl digitStep n = none := by
    induction t generalizing n with
    | nil => cases member
    | cons d t ih =>
      rcases List.mem_cons.mp member with rfl | later
      · have step : digitStep n c = none := by
          cases n <;> cases ch : c.char? <;> simp_all [digitStep]
        rw [List.foldl_cons, step, none_stays]
      · exact ih later _
  unfold group?
  split
  · rfl
  · exact bad _

/-! ### Runs of zeros -/

/-- The run of zeros lies in the list. -/
theorem longestZeros_run (position : Nat) (gs : List Nat) :
    ∃ before after, gs = before ++ List.replicate (longestZeros position gs).2 0 ++ after ∧
      (longestZeros position gs).1 = position + before.length := by
  induction gs generalizing position with
  | nil => exact ⟨[], [], rfl, rfl⟩
  | cons g gs ih =>
    rw [longestZeros]
    dsimp only
    split
    · refine ⟨[], (g :: gs).dropWhile (· == 0), ?_, rfl⟩
      have zeros := List.eq_replicate_of_mem (a := 0) (l := (g :: gs).takeWhile (· == 0))
        fun b member => by simpa using List.mem_takeWhile_imp member
      rw [← zeros, List.nil_append, List.takeWhile_append_dropWhile]
    · obtain ⟨before, after, parts, start⟩ := ih (position + 1)
      refine ⟨g :: before, after, ?_, ?_⟩
      · rw [List.cons_append, List.cons_append, ← parts]
      · rw [start, List.length_cons]
        omega

/-! ### Groups around a gap -/

theorem gaps_around {before after : List Text} (first : [] ∉ before.tail)
    (last : [] ∉ after.dropLast) (filled : before ≠ []) (filled' : after ≠ []) :
    gaps (before ++ [] :: after) = [before.length] := by
  have only : ∀ i ∈ List.range (before ++ [] :: after).length,
      (decide (0 < i) && decide (i + 1 < (before ++ [] :: after).length) &&
        decide ((before ++ [] :: after)[i]? = some [])) = decide (i = before.length) := by
    intro i _
    have some := List.length_pos_of_ne_nil filled
    have some' := List.length_pos_of_ne_nil filled'
    rw [Bool.eq_iff_iff]
    simp only [Bool.and_eq_true, decide_eq_true_eq, List.length_append, List.length_cons]
    constructor
    · rintro ⟨⟨positive, inside⟩, empty⟩
      -- An empty piece in another place would be one of those before the gap or behind it.
      obtain less | equal | greater := lt_trichotomy i before.length
      · rw [List.getElem?_append_left less] at empty
        refine absurd (List.mem_of_getElem? (i := i - 1) ?_) first
        rw [List.getElem?_tail, Nat.sub_add_cancel positive, empty]
      · exact equal
      · obtain ⟨k, rfl⟩ := Nat.exists_eq_add_of_lt greater
        rw [List.getElem?_append_right (by omega)] at empty
        have index : before.length + k + 1 - before.length = k + 1 := by omega
        rw [index, List.getElem?_cons_succ] at empty
        refine absurd (List.mem_of_getElem? (i := k) ?_) last
        rw [List.getElem?_dropLast, if_pos (by omega), empty]
    · rintro rfl
      exact ⟨⟨some, by omega⟩, by simp⟩
  have count : (List.range (before ++ [] :: after).length).count before.length = 1 :=
    List.count_eq_one_of_mem List.nodup_range (by simp)
  rw [gaps, List.filter_congr only, List.filter_eq, count]
  rfl

section Pieces

variable {ps qs : List Text}

theorem length_orEmpty (ps : List Text) : (orEmpty ps).length = max 1 ps.length := by
  cases ps with
  | nil => rfl
  | cons p ps =>
    rw [orEmpty, List.length_cons]
    omega

theorem orEmpty_ne_nil (ps : List Text) : orEmpty ps ≠ [] := by
  cases ps <;> exact List.cons_ne_nil _ _

/-- Only the empty piece of no groups is empty, and it is first and last. -/
theorem nil_notMem_orEmpty (filled : [] ∉ ps) :
    [] ∉ (orEmpty ps).tail ∧ [] ∉ (orEmpty ps).dropLast := by
  cases ps with
  | nil => exact ⟨List.not_mem_nil, List.not_mem_nil⟩
  | cons p ps =>
    exact ⟨fun member => filled (List.mem_of_mem_tail member),
      fun member => filled (List.mem_of_mem_dropLast member)⟩

theorem head?_orEmpty (filled : [] ∉ ps) : (orEmpty ps).head? = some [] ↔ ps = [] := by
  cases ps with
  | nil => simp [orEmpty]
  | cons p ps =>
    have first : p ≠ [] := fun equal => filled (by simp [equal])
    simp [orEmpty, first]

theorem getLast?_orEmpty (filled : [] ∉ ps) : (orEmpty ps).getLast? = some [] ↔ ps = [] := by
  cases ps with
  | nil => simp [orEmpty]
  | cons p ps =>
    refine iff_of_false (fun last => ?_) (List.cons_ne_nil p ps)
    exact filled (List.mem_of_getLast? last)

theorem splitGroups?_gap (filled : [] ∉ ps) (filled' : [] ∉ qs)
    (short : ps.length + qs.length ≤ 7) :
    splitGroups? (orEmpty ps ++ [] :: orEmpty qs) = some (ps, qs) := by
  have gap := gaps_around (nil_notMem_orEmpty filled).1 (nil_notMem_orEmpty filled').2
    (orEmpty_ne_nil ps) (orEmpty_ne_nil qs)
  -- The gap stands at an end exactly if there are no groups on that side.
  have head : (orEmpty ps ++ [] :: orEmpty qs).head? = some [] ↔ ps = [] := by
    rw [List.head?_append_of_ne_nil _ (orEmpty_ne_nil ps), head?_orEmpty filled]
  have last : (orEmpty ps ++ [] :: orEmpty qs).getLast? = some [] ↔ qs = [] := by
    rw [List.getLast?_append_of_ne_nil _ (List.cons_ne_nil _ _),
      List.getLast?_cons_of_ne_nil (orEmpty_ne_nil qs), getLast?_orEmpty filled']
  have parts : (orEmpty ps ++ [] :: orEmpty qs).take (orEmpty ps).length = orEmpty ps ∧
      (orEmpty ps ++ [] :: orEmpty qs).drop ((orEmpty ps).length + 1) = orEmpty qs := by
    rw [List.take_left, List.drop_append, List.drop_of_length_le (by omega)]
    exact ⟨rfl, by simp⟩
  have groups : (if ps = [] then (orEmpty ps).drop 1 else orEmpty ps) = ps := by
    cases ps <;> rfl
  have groups' : (if qs = [] then (orEmpty qs).dropLast else orEmpty qs) = qs := by
    cases qs <;> rfl
  rw [splitGroups?, gap]
  simp only [parts.1, parts.2, head, last, groups, groups']
  rw [if_neg]
  rw [Bool.or_eq_true, Bool.or_eq_true, decide_eq_true_eq]
  rintro ((leading | trailing) | long)
  · cases ps <;> simp at leading
  · cases qs <;> simp at trailing
  · omega

theorem splitGroups?_full (filled : [] ∉ ps) (eight : ps.length = 8) :
    splitGroups? ps = some (ps, []) := by
  have none : gaps ps = [] := by
    rw [gaps, List.filter_eq_nil_iff]
    intro i _ gap
    simp only [Bool.and_eq_true, decide_eq_true_eq] at gap
    exact filled (List.mem_of_getElem? gap.2)
  rw [splitGroups?, none]
  simp [eight]

/-- Groups are not taken for an IPv4 address. -/
theorem groups?_of_getLast? {last : Text} (found : ps.getLast? = some last)
    (plain : (.scalar '.') ∉ last) : groups? ps = some ps := by
  rw [groups?, found]
  dsimp only
  rw [if_neg (by simpa using plain)]

end Pieces

/-! ### IPv6 -/

theorem nil_notMem_hex (gs : List Nat) : [] ∉ gs.map (Text.hex 1) := by
  intro member
  obtain ⟨g, -, empty⟩ := List.mem_map.mp member
  exact hex_ne_nil g empty

theorem forall_notMem_hex {c : CodePoint} (other : ∀ d < 16, c ≠ .scalar (Nat.digitChar d))
    (gs : List Nat) : ∀ p ∈ gs.map (Text.hex 1), c ∉ p := by
  intro p member
  obtain ⟨g, -, rfl⟩ := List.mem_map.mp member
  exact notMem_hex other g

theorem colon_apart (gs : List Nat) : ∀ p ∈ gs.map (Text.hex 1), (.scalar ':') ∉ p :=
  forall_notMem_hex (by decide) gs

/-- The last piece of groups is not an IPv4 address. -/
theorem groups?_hex (gs : List Nat) {pieces : List Text} (filled : pieces ≠ [])
    (last : pieces.getLast? = (orEmpty (gs.map (Text.hex 1))).getLast?) :
    groups? pieces = some pieces := by
  obtain ⟨p, found⟩ := List.getLast?_isSome.mpr filled |> Option.isSome_iff_exists.mp
  refine groups?_of_getLast? found fun point => ?_
  rw [found] at last
  cases gs with
  | nil =>
    cases last
    cases point
  | cons g gs =>
    exact forall_notMem_hex (by decide) (g :: gs) p (List.mem_of_getLast? last.symm) point

theorem splitAt_gap (before after : List Nat) :
    splitAt (.scalar ':') (joinGroups before ++ "::" ++ joinGroups after) =
      orEmpty (before.map (Text.hex 1)) ++ [] :: orEmpty (after.map (Text.hex 1)) := by
  have inner : splitAt (.scalar ':') (.scalar ':' :: joinGroups after) = _ :=
    (splitAt_append List.not_mem_nil _).trans (congrArg _ (splitAt_join (colon_apart after)))
  rw [List.append_assoc, ← inner]
  exact splitAt_join_append (colon_apart before) (.scalar ':' :: joinGroups after)

theorem mapM_group? {gs : List Nat} (small : ∀ g ∈ gs, g < 65536) :
    (gs.map (Text.hex 1)).mapM group? = some gs := by
  induction gs with
  | nil => rfl
  | cons g gs ih =>
    obtain ⟨first, others⟩ := List.forall_mem_cons.mp small
    rw [List.map_cons, List.mapM_cons, group?_hex first, ih others]
    rfl

theorem groups_small (bits : BitVec 128) : ∀ g ∈ groups bits, g < 65536 := by
  intro g member
  obtain ⟨i, -, rfl⟩ := List.mem_map.mp member
  exact Nat.mod_lt _ (by decide)

/-- The value of groups, the first one the most significant. -/
def value (gs : List Nat) : BitVec 128 := BitVec.ofNat 128 (gs.foldl (fun n g => n * 65536 + g) 0)

theorem value_groups (bits : BitVec 128) : value (groups bits) = bits := by
  have small := bits.isLt
  apply BitVec.eq_of_toNat_eq
  rw [value, BitVec.toNat_ofNat]
  simp only [groups, List.range, List.range.loop, List.map_cons, List.map_nil, List.foldl_cons,
    List.foldl_nil, Nat.pow_eq]
  norm_num
  omega

/-- What is left out between groups is read as zeros. -/
theorem readV6?_gap {before after : List Nat} (small : ∀ g ∈ before ++ after, g < 65536)
    (short : before.length + after.length ≤ 7) :
    readV6? (joinGroups before ++ "::" ++ joinGroups after) =
      some (value (before ++ List.replicate (8 - before.length - after.length) 0 ++ after)) := by
  obtain ⟨small, small'⟩ := List.forall_mem_append.mp small
  -- The last piece is one behind the gap, and none of those is an IPv4 address.
  have last : (orEmpty (before.map (Text.hex 1)) ++
      [] :: orEmpty (after.map (Text.hex 1))).getLast? =
        (orEmpty (after.map (Text.hex 1))).getLast? := by
    rw [List.getLast?_append_of_ne_nil _ (List.cons_ne_nil _ _),
      List.getLast?_cons_of_ne_nil (orEmpty_ne_nil _)]
  have kept := groups?_hex after (by simp) last
  have parted := splitGroups?_gap (nil_notMem_hex before) (nil_notMem_hex after)
    (by simpa using short)
  have size := length_orEmpty (before.map (Text.hex 1))
  have size' := length_orEmpty (after.map (Text.hex 1))
  rw [List.length_map] at size size'
  rw [readV6?, splitAt_gap]
  dsimp only
  rw [if_neg (by simp; omega), kept]
  dsimp only [Option.bind_eq_bind, Option.bind_some]
  rw [if_neg (by simp; omega), parted]
  simp only [Option.bind_some, mapM_group? small, mapM_group? small', Option.pure_def]
  rfl

theorem readV6?_full {gs : List Nat} (small : ∀ g ∈ gs, g < 65536) (eight : gs.length = 8) :
    readV6? (joinGroups gs) = some (value gs) := by
  have some : orEmpty (gs.map (Text.hex 1)) = gs.map (Text.hex 1) := by
    cases gs with
    | nil => cases eight
    | cons g gs => rfl
  have pieces : splitAt (.scalar ':') (joinGroups gs) = gs.map (Text.hex 1) :=
    (splitAt_join (colon_apart gs)).trans some
  have kept := groups?_hex gs (some ▸ orEmpty_ne_nil _) (congrArg List.getLast? some.symm)
  have parted := splitGroups?_full (nil_notMem_hex gs) (by simpa using eight)
  rw [readV6?, pieces]
  dsimp only
  rw [if_neg (by simp [eight]), kept]
  dsimp only [Option.bind_eq_bind, Option.bind_some]
  rw [if_neg (by simp [eight]), parted]
  simp only [Option.bind_some, mapM_group? small, List.mapM_nil, Option.pure_def, eight]
  simp [value]

theorem readV6?_v6Text (bits : BitVec 128) : readV6? (v6Text bits) = some bits := by
  have eight : (groups bits).length = 8 := rfl
  have small := groups_small bits
  obtain ⟨before, after, parts, start⟩ := longestZeros_run 0 (groups bits)
  rw [v6Text]
  generalize longestZeros 0 (groups bits) = run at parts start ⊢
  obtain ⟨first, length⟩ := run
  dsimp only at parts start ⊢
  rw [Nat.zero_add] at start
  subst start
  split
  · rw [readV6?_full small eight, value_groups]
  · next run =>
    -- What is written around the two colons is what stands around the run of zeros.
    have outer : (groups bits).take before.length = before ∧
        (groups bits).drop (before.length + length) = after := by
      rw [parts]
      constructor
      · simp
      · rw [List.drop_left' (by simp)]
    have total : before.length + length + after.length = 8 := by
      rw [← eight, parts]
      simp only [List.length_append, List.length_replicate]
    rw [outer.1, outer.2, readV6?_gap]
    · have zeros : 8 - before.length - after.length = length := by omega
      rw [zeros, ← parts, value_groups]
    · intro g member
      apply small
      rw [parts]
      simp only [List.mem_append] at member ⊢
      tauto
    · omega

/-! ### Zones -/

section Ends

variable {ps : List Text} {p q : Text}

theorem mem_drop_one (member : p ∈ ps) (first : ps.head? = some q) (other : p ≠ q) :
    p ∈ ps.drop 1 := by
  cases ps with
  | nil => cases member
  | cons r ps =>
    cases first
    exact (List.mem_cons.mp member).resolve_left other

theorem mem_dropLast (member : p ∈ ps) (last : ps.getLast? = some q) (other : p ≠ q) :
    p ∈ ps.dropLast := by
  rw [← List.dropLast_append_getLast? q last, List.mem_append] at member
  exact member.resolve_right fun same => other (List.mem_singleton.mp same)

end Ends

/-- Only empty pieces are left out where groups are. -/
theorem mem_of_splitGroups? {ps before after : List Text} {p : Text} (member : p ∈ ps)
    (filled : p ≠ []) (parted : splitGroups? ps = some (before, after)) : p ∈ before ++ after := by
  rw [splitGroups?] at parted
  split at parted
  · split at parted
    · cases parted
      simpa using member
    · cases parted
  · next i gap =>
    have empty : ps[i]? = some [] := by
      have inside : i ∈ gaps ps := by simp [gap]
      have test := (List.mem_filter.mp inside).2
      simp only [Bool.and_eq_true, decide_eq_true_eq] at test
      exact test.2
    -- A piece that is not empty stands in front of the gap or behind it.
    have outer : p ∈ ps.take i ∨ p ∈ ps.drop (i + 1) := by
      rw [← List.take_append_drop i ps, List.mem_append] at member
      refine member.imp_right fun behind => ?_
      rw [List.drop_eq_getElem?_toList_append, empty, Option.toList_some, List.singleton_append,
        List.mem_cons] at behind
      exact behind.resolve_left filled
    dsimp only at parted
    rw [Option.ite_none_left_eq_some, Option.some.injEq, Prod.mk.injEq] at parted
    obtain ⟨-, rfl, rfl⟩ := parted
    refine List.mem_append.mpr (outer.imp (fun front => ?_) fun behind => ?_)
    · split
      · next first =>
        have some : i ≠ 0 := by
          rintro rfl
          cases front
        exact mem_drop_one front (by rw [List.head?_take, if_neg some, first]) filled
      · exact front
    · split
      · next last =>
        have some := List.length_pos_of_mem behind
        rw [List.length_drop] at some
        exact mem_dropLast behind (by rw [List.getLast?_drop, if_neg (by omega), last]) filled
      · exact behind
  · cases parted

theorem group?_of_mapM {ps : List Text} {gs : List Nat} (read : ps.mapM group? = some gs) {p : Text}
    (member : p ∈ ps) : group? p ≠ none := by
  induction ps generalizing gs with
  | nil => cases member
  | cons q ps ih =>
    rw [List.mapM_cons] at read
    obtain ⟨g, first, read⟩ := Option.bind_eq_some_iff.mp read
    obtain ⟨gs, others, -⟩ := Option.bind_eq_some_iff.mp read
    rcases List.mem_cons.mp member with rfl | later
    · simp [first]
    · exact ih others later

/-- No percent sign is in what is read as an IPv6 address. -/
theorem readV6?_percent {t : Text} (member : (.scalar '%') ∈ t) : readV6? t = none := by
  obtain ⟨p, inside, found⟩ := exists_mem_splitAt (c := .scalar ':') (by decide) member
  have filled : p ≠ [] := List.ne_nil_of_mem found
  have bad : group? p = none := group?_of_mem found (by decide)
  -- Only the last piece may be replaced, and only by what an IPv4 address says.
  have kept {pieces : List Text} (read : groups? (splitAt (.scalar ':') t) = some pieces) :
      p ∈ pieces := by
    rw [groups?] at read
    split at read
    · cases read
    · next last final =>
      split at read
      · split at read
        · cases read
        · next bits v4 =>
          cases read
          refine List.mem_append_left _ ?_
          have other : p ≠ last := by
            rintro rfl
            rw [readV4?_of_mem found (by decide) (by decide)] at v4
            cases v4
          exact mem_dropLast inside final other
      · cases read
        exact inside
  -- The piece would have to be a group of the address.
  by_contra some
  obtain ⟨bits, read⟩ := Option.ne_none_iff_exists'.mp some
  rw [readV6?] at read
  dsimp only at read
  split at read
  · cases read
  obtain ⟨pieces, changed, read⟩ := Option.bind_eq_some_iff.mp read
  split at read
  · cases read
  obtain ⟨⟨before, after⟩, parted, read⟩ := Option.bind_eq_some_iff.mp read
  obtain ⟨gs, first, read⟩ := Option.bind_eq_some_iff.mp read
  obtain ⟨gs', last, -⟩ := Option.bind_eq_some_iff.mp read
  rcases List.mem_append.mp (mem_of_splitGroups? (kept changed) filled parted) with front | behind
  · exact group?_of_mapM first front bad
  · exact group?_of_mapM last behind bad

end Address

end ChallengeDns
