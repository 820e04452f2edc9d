import Mathlib
import ChallengeDns.Text.Utf8

/-!
# Reading files as text

What the octets of a file can become.  Octets are read as a text exactly if they are its encoding:
each step takes the octets of one scalar value, and those octets are taken in one step.  So nothing
is read as half a surrogate pair, and ASCII text without carriage returns comes back as it is.
-/
namespace ChallengeDns.Text

/-! ### One character -/

theorem toUInt8_eq {n : Nat} {b : UInt8} (equal : n = b.toNat) : n.toUInt8 = b := by
  subst equal
  exact UInt8.ofNat_toNat

theorem toNat_toUInt8 {n : Nat} (small : n < 256) : n.toUInt8.toNat = n :=
  UInt8.toNat_ofNat_of_lt' small

theorem tailBits_of_toNat {b : UInt8} {n : Nat} (octet : b.toNat = 0x80 + n) : tailBits b = n := by
  have bits : tailBits b = b.toNat - 0x80 := rfl
  omega

theorem isTail_iff (b : UInt8) :
    isTail b = true ↔ b.toNat = 0x80 + tailBits b ∧ tailBits b < 64 := by
  have bits : tailBits b = b.toNat - 0x80 := rfl
  simp only [isTail, UInt8.le_iff_toNat_le, UInt8.lt_iff_toNat_lt, UInt8.reduceToNat,
    Bool.and_eq_true, decide_eq_true_eq]
  omega

/-- The bits that a second octet may carry: there is no overlong form, no surrogate and no number
beyond the last code point. -/
structure Follows (first : UInt8) (bits : Nat) : Prop where
  small : bits < 64
  longer : first.toNat = 0xE0 → 0x20 ≤ bits
  whole : first.toNat = 0xED → bits < 0x20
  longest : first.toNat = 0xF0 → 0x10 ≤ bits
  last : first.toNat = 0xF4 → bits < 0x10

theorem isSecond_iff (first second : UInt8) : isSecond first second = true ↔
    second.toNat = 0x80 + tailBits second ∧ Follows first (tailBits second) := by
  have bits : tailBits second = second.toNat - 0x80 := rfl
  constructor
  · intro follows
    simp only [isSecond, isTail, ← UInt8.toNat_inj, UInt8.le_iff_toNat_le, UInt8.lt_iff_toNat_lt,
      UInt8.reduceToNat] at follows
    repeat' split at follows
    all_goals
      simp only [Bool.and_eq_true, decide_eq_true_eq] at follows
      exact ⟨by omega, by omega, by omega, by omega, by omega, by omega⟩
  · rintro ⟨octet, small, longer, whole, longest, last⟩
    simp only [isSecond, isTail, ← UInt8.toNat_inj, UInt8.le_iff_toNat_le, UInt8.lt_iff_toNat_lt,
      UInt8.reduceToNat]
    repeat' split
    all_goals
      simp only [Bool.and_eq_true, decide_eq_true_eq]
      omega

/-- What is read are the octets of a scalar value. -/
theorem utf8Step_read {first : UInt8} {rest : Bytes} {value length : Nat}
    (read : utf8Step first rest = .read value length) :
    value.isValidChar ∧ ∃ tail more, rest = tail ++ more ∧ tail.length + 1 = length ∧
      utf8Octets value = first :: tail := by
  have below (n : UInt8) : first < n ↔ first.toNat < n.toNat := UInt8.lt_iff_toNat_lt
  -- One octet, a stray one, two, three or four of them.  Only three could write a surrogate, and
  -- there the second octet is bounded.
  unfold utf8Step at read
  split at read
  · next one =>
    simp only [below, UInt8.reduceToNat] at one
    rw [Utf8Step.read.injEq] at read
    obtain ⟨rfl, rfl⟩ := read
    refine ⟨Or.inl (by omega), [], rest, rfl, rfl, ?_⟩
    rw [utf8Octets, if_pos one, toUInt8_eq rfl]
  split at read
  · cases read
  next notStray =>
  simp only [below, UInt8.reduceToNat] at notStray
  split at read
  · next two =>
    simp only [below, UInt8.reduceToNat] at two
    split at read
    · cases read
    · next b rest =>
      split at read
      · next tail =>
        obtain ⟨octet, bits⟩ := (isTail_iff b).mp tail
        rw [Utf8Step.read.injEq] at read
        obtain ⟨rfl, rfl⟩ := read
        refine ⟨Or.inl (by omega), [b], rest, rfl, rfl, ?_⟩
        rw [utf8Octets, if_neg (by omega), if_pos (by omega), toUInt8_eq (b := first) (by omega),
          toUInt8_eq (b := b) (by omega)]
      · cases read
  split at read
  · next notTwo three =>
    simp only [below, UInt8.reduceToNat] at notTwo three
    split at read
    · cases read
    · next b rest =>
      cases second : isSecond first b with
      | false => simp [second] at read
      | true =>
        obtain ⟨octet, bits, longer, whole, _⟩ := (isSecond_iff first b).mp second
        rw [second, Bool.not_true, if_neg Bool.false_ne_true] at read
        split at read
        · cases read
        · next c rest =>
          split at read
          · next tail =>
            obtain ⟨octet', bits'⟩ := (isTail_iff c).mp tail
            rw [Utf8Step.read.injEq] at read
            obtain ⟨rfl, rfl⟩ := read
            refine ⟨?_, [b, c], rest, rfl, rfl, ?_⟩
            · simp only [Nat.isValidChar]
              omega
            · rw [utf8Octets, if_neg (by omega), if_neg (by omega), if_pos (by omega),
                toUInt8_eq (b := first) (by omega), toUInt8_eq (b := b) (by omega),
                toUInt8_eq (b := c) (by omega)]
          · cases read
  split at read
  · next notThree four =>
    simp only [below, UInt8.reduceToNat] at notThree four
    split at read
    · cases read
    · next b rest =>
      cases second : isSecond first b with
      | false => simp [second] at read
      | true =>
        obtain ⟨octet, bits, _, _, longest, last⟩ := (isSecond_iff first b).mp second
        rw [second, Bool.not_true, if_neg Bool.false_ne_true] at read
        split at read
        · cases read
        · next c rest =>
          cases tail : isTail c with
          | false => simp [tail] at read
          | true =>
            obtain ⟨octet', bits'⟩ := (isTail_iff c).mp tail
            rw [tail, Bool.not_true, if_neg Bool.false_ne_true] at read
            split at read
            · cases read
            · next d rest =>
              split at read
              · next tail' =>
                obtain ⟨octet'', bits''⟩ := (isTail_iff d).mp tail'
                rw [Utf8Step.read.injEq] at read
                obtain ⟨rfl, rfl⟩ := read
                refine ⟨?_, [b, c, d], rest, rfl, rfl, ?_⟩
                · simp only [Nat.isValidChar]
                  omega
                · rw [utf8Octets, if_neg (by omega), if_neg (by omega), if_neg (by omega),
                    toUInt8_eq (b := first) (by omega), toUInt8_eq (b := b) (by omega),
                    toUInt8_eq (b := c) (by omega), toUInt8_eq (b := d) (by omega)]
              · cases read
  · cases read

theorem isTail_toUInt8 {n : Nat} (small : n < 64) :
    isTail (0x80 + n).toUInt8 = true ∧ tailBits (0x80 + n).toUInt8 = n := by
  have octet : (0x80 + n).toUInt8.toNat = 0x80 + n := toNat_toUInt8 (by omega)
  have bits := tailBits_of_toNat octet
  rw [isTail_iff, bits]
  exact ⟨⟨octet, small⟩, rfl⟩

theorem isSecond_toUInt8 {first : UInt8} {n : Nat} (follows : Follows first n) :
    isSecond first (0x80 + n).toUInt8 = true ∧ tailBits (0x80 + n).toUInt8 = n := by
  have small := follows.small
  have octet : (0x80 + n).toUInt8.toNat = 0x80 + n := toNat_toUInt8 (by omega)
  have bits := tailBits_of_toNat octet
  rw [isSecond_iff, bits]
  exact ⟨⟨octet, follows⟩, rfl⟩

/-- The octets of a scalar value are read in one step, whatever follows them. -/
theorem utf8Step_octets {n : Nat} (valid : n.isValidChar) {first : UInt8} {tail : Bytes}
    (written : utf8Octets n = first :: tail) (rest : Bytes) :
    utf8Step first (tail ++ rest) = .read n (tail.length + 1) := by
  have bound : n < 0xD800 ∨ 0xDFFF < n ∧ n < 0x110000 := valid
  have below (m : UInt8) : first < m ↔ first.toNat < m.toNat := UInt8.lt_iff_toNat_lt
  -- One case for each number of octets: the first octet says how many follow.
  unfold utf8Octets at written
  split at written
  · next one =>
    obtain ⟨rfl, rfl⟩ := List.cons.inj written
    have octet := toNat_toUInt8 (n := n) (by omega)
    rw [utf8Step.eq_def, if_pos (by simp [below, octet, one]), octet]
    rfl
  split at written
  · next two =>
    obtain ⟨head, rfl⟩ := List.cons.inj written
    have octet : first.toNat = 0xC0 + n / 64 := head ▸ toNat_toUInt8 (by omega)
    obtain ⟨tail, bits⟩ := isTail_toUInt8 (n := n % 64) (by omega)
    have size : ¬first < 0x80 ∧ ¬first < 0xC2 ∧ first < 0xE0 := by
      simp only [below, octet, UInt8.reduceToNat]
      omega
    rw [utf8Step.eq_def, if_neg size.1, if_neg size.2.1, if_pos size.2.2]
    simp only [List.cons_append, List.nil_append, tail, if_true, bits, octet]
    rw [Utf8Step.read.injEq]
    exact ⟨by omega, rfl⟩
  split at written
  · next three =>
    obtain ⟨head, rfl⟩ := List.cons.inj written
    have octet : first.toNat = 0xE0 + n / 4096 := head ▸ toNat_toUInt8 (by omega)
    have follows : Follows first (n / 64 % 64) :=
      ⟨by omega, by omega, by omega, by omega, by omega⟩
    obtain ⟨second, bits⟩ := isSecond_toUInt8 follows
    obtain ⟨tail, bits'⟩ := isTail_toUInt8 (n := n % 64) (by omega)
    have size : ¬first < 0x80 ∧ ¬first < 0xC2 ∧ ¬first < 0xE0 ∧ first < 0xF0 := by
      simp only [below, octet, UInt8.reduceToNat]
      omega
    rw [utf8Step.eq_def, if_neg size.1, if_neg size.2.1, if_neg size.2.2.1, if_pos size.2.2.2]
    simp only [List.cons_append, List.nil_append, second, Bool.not_true, Bool.false_eq_true,
      if_false, tail, if_true, bits, bits', octet]
    rw [Utf8Step.read.injEq]
    exact ⟨by omega, rfl⟩
  · obtain ⟨head, rfl⟩ := List.cons.inj written
    have octet : first.toNat = 0xF0 + n / 262144 := head ▸ toNat_toUInt8 (by omega)
    have follows : Follows first (n / 4096 % 64) :=
      ⟨by omega, by omega, by omega, by omega, by omega⟩
    obtain ⟨second, bits⟩ := isSecond_toUInt8 follows
    obtain ⟨tail, bits'⟩ := isTail_toUInt8 (n := n / 64 % 64) (by omega)
    obtain ⟨tail', bits''⟩ := isTail_toUInt8 (n := n % 64) (by omega)
    have size : ¬first < 0x80 ∧ ¬first < 0xC2 ∧ ¬first < 0xE0 ∧ ¬first < 0xF0 ∧
        first < 0xF5 := by
      simp only [below, octet, UInt8.reduceToNat]
      omega
    rw [utf8Step.eq_def, if_neg size.1, if_neg size.2.1, if_neg size.2.2.1, if_neg size.2.2.2.1,
      if_pos size.2.2.2.2]
    simp only [List.cons_append, List.nil_append, second, Bool.not_true, Bool.false_eq_true,
      if_false, tail, tail', if_true, bits, bits', bits'', octet]
    rw [Utf8Step.read.injEq]
    exact ⟨by omega, rfl⟩

theorem exists_octets (n : Nat) : ∃ first tail, utf8Octets n = first :: tail := by
  unfold utf8Octets
  split
  · exact ⟨_, _, rfl⟩
  split
  · exact ⟨_, _, rfl⟩
  split <;> exact ⟨_, _, rfl⟩

/-! ### Texts -/

/-- Every code point is a scalar value. -/
def IsWhole (t : Text) : Prop := ∀ c ∈ t, c.char?.isSome = true

@[simp] theorem whole_nil : IsWhole [] := nofun

@[simp] theorem whole_append {s t : Text} : (s ++ t).IsWhole ↔ s.IsWhole ∧ t.IsWhole :=
  List.forall_mem_append

@[simp] theorem whole_ofChars (cs : List Char) : (ofChars cs).IsWhole :=
  List.forall_mem_map.mpr fun _ _ => rfl

@[simp] theorem whole_ofString (s : String) : (ofString s).IsWhole := whole_ofChars _

@[simp] theorem whole_padded (width n : Nat) : (padded width n).IsWhole := whole_ofChars _

@[simp] theorem whole_ofNat (n : Nat) : (ofNat n).IsWhole := whole_ofChars _

@[simp] theorem whole_when {condition : Bool} {t : Text} :
    (when condition t).IsWhole ↔ (condition = true → t.IsWhole) := by
  cases condition <;> simp [when]

theorem ofNat?_toNat (c : Char) : CodePoint.ofNat? c.toNat = some (.scalar c) := by
  unfold CodePoint.ofNat?
  exact dif_pos c.valid

/-- The octets that belong to a character are passed over. -/
theorem decodeFrom_skip (position : Nat) (tail rest : Bytes) :
    decodeFrom position tail.length (tail ++ rest) =
      decodeFrom (position + tail.length) 0 rest := by
  induction tail generalizing position with
  | nil => rfl
  | cons b tail ih =>
    rw [List.length_cons, List.cons_append, decodeFrom, ih, Nat.add_right_comm]
    rfl

theorem decodeFrom_of_encode {position : Nat} {b : Bytes} {t : Text}
    (encoded : t.encode? = some b) : decodeFrom position 0 b = .ok t := by
  induction t generalizing position b with
  | nil =>
    cases encoded
    rfl
  | cons c t ih =>
    cases c with
    | surrogate half => cases encoded
    | scalar c =>
      obtain ⟨rest, later, rfl⟩ := Option.map_eq_some_iff.mp encoded
      obtain ⟨first, tail, written⟩ := exists_octets c.toNat
      have step := utf8Step_octets (n := c.toNat) c.valid written rest
      have skip := decodeFrom_skip (position + 1) tail rest
      rw [utf8Char, written, List.cons_append]
      simp only [decodeFrom, step, Nat.add_sub_cancel, skip, ih later, ofNat?_toNat]
      rfl

theorem encode_of_decodeFrom {position : Nat} {b : Bytes} {t : Text}
    (decoded : decodeFrom position 0 b = .ok t) : t.encode? = some b := by
  -- By induction on the length, since a character takes several octets.
  induction size : b.length using Nat.strong_induction_on generalizing position b t with
  | _ n ih =>
    cases b with
    | nil =>
      cases decoded
      rfl
    | cons first rest =>
      simp only [decodeFrom] at decoded
      cases step : utf8Step first rest with
      | bad length fault => simp [step] at decoded
      | read value length =>
        obtain ⟨valid, tail, more, rfl, rfl, written⟩ := utf8Step_read step
        rw [step] at decoded
        dsimp only at decoded
        rw [Nat.add_sub_cancel, decodeFrom_skip] at decoded
        cases later : decodeFrom (position + 1 + tail.length) 0 more with
        | error e => simp [later] at decoded
        | ok u =>
          have shorter : more.length < n := by
            rw [← size, List.length_cons, List.length_append]
            omega
          have point : CodePoint.ofNat? value = some (.scalar (Char.ofNatAux value valid)) :=
            dif_pos valid
          have number : (Char.ofNatAux value valid).toNat = value := rfl
          simp only [later, point, Except.ok.injEq] at decoded
          subst decoded
          have tail := ih more.length shorter later rfl
          simp [encode?, tail, utf8Char, number, written]

/-- Octets are a text exactly if they are its encoding. -/
theorem decode_ok_iff {b : Bytes} {t : Text} : decode b = .ok t ↔ t.encode? = some b :=
  ⟨encode_of_decodeFrom, decodeFrom_of_encode⟩

theorem whole_of_encode {b : Bytes} {t : Text} (encoded : t.encode? = some b) : IsWhole t := by
  induction t generalizing b with
  | nil => nofun
  | cons c t ih =>
    cases c with
    | surrogate half => cases encoded
    | scalar c =>
      obtain ⟨rest, later, _⟩ := Option.map_eq_some_iff.mp encoded
      exact List.forall_mem_cons.mpr ⟨rfl, ih later⟩

theorem mem_unifyNewlines {c : CodePoint} {t : Text} (member : c ∈ t.unifyNewlines) :
    c ∈ t ∨ c = .scalar '\n' := by
  induction t using unifyNewlines.induct with
  | case1 => cases member
  | case2 t ih =>
    rcases List.mem_cons.mp member with rfl | later
    · exact Or.inr rfl
    · exact (ih later).imp_left fun inside => by simp [inside]
  | case3 t _ ih =>
    rw [unifyNewlines] at member
    · rcases List.mem_cons.mp member with rfl | later
      · exact Or.inr rfl
      · exact (ih later).imp_left (List.mem_cons_of_mem _)
    · assumption
  | case4 d t _ _ ih =>
    rw [unifyNewlines] at member
    · rcases List.mem_cons.mp member with rfl | later
      · exact Or.inl List.mem_cons_self
      · exact (ih later).imp_left (List.mem_cons_of_mem _)
    · assumption
    · assumption

/-! ### Plain text -/

/-- A text as the state file has it: ASCII without carriage returns. -/
def IsPlain (t : Text) : Prop := ∀ c ∈ t, c.value < 0x80 ∧ c ≠ .scalar '\r'

theorem encode_plain {t : Text} (plain : IsPlain t) : t.encode? = some (utf8 t) := by
  induction t with
  | nil => rfl
  | cons c t ih =>
    obtain ⟨⟨small, _⟩, rest⟩ := List.forall_mem_cons.mp plain
    cases c with
    | surrogate half =>
      simp only [CodePoint.value] at small
      omega
    | scalar c => rw [encode?, ih rest, utf8, utf8, List.flatMap_cons, Option.map_some]

theorem unifyNewlines_plain {t : Text} (plain : IsPlain t) : t.unifyNewlines = t := by
  induction t using unifyNewlines.induct with
  | case1 => rfl
  | case2 t _ => exact absurd rfl (plain _ List.mem_cons_self).2
  | case3 t _ _ => exact absurd rfl (plain _ List.mem_cons_self).2
  | case4 c t _ _ ih =>
    rw [unifyNewlines]
    · rw [ih fun d member => plain d (List.mem_cons_of_mem c member)]
    · assumption
    · assumption

/-! ### Visible text -/

/-- Blanks and what can be seen of ASCII; no line break is among it. -/
def IsVisible (t : Text) : Prop := ∀ c ∈ t, 0x20 ≤ c.value ∧ c.value < 0x7F

theorem IsVisible.append {s t : Text} (left : s.IsVisible) (right : t.IsVisible) :
    (s ++ t).IsVisible := List.forall_mem_append.mpr ⟨left, right⟩

theorem IsVisible.plain {t : Text} (visible : t.IsVisible) : t.IsPlain := by
  intro c member
  have bounds := visible c member
  refine ⟨by omega, ?_⟩
  rintro rfl
  exact absurd bounds.1 (by decide)

theorem visible_ofChars {cs : List Char} (visible : ∀ c ∈ cs, 0x20 ≤ c.toNat ∧ c.toNat < 0x7F) :
    (ofChars cs).IsVisible := List.forall_mem_map.mpr visible

theorem visible_digits {cs : List Char} (digits : ∀ c ∈ cs, c.isDigit = true) :
    (ofChars cs).IsVisible := by
  refine visible_ofChars fun c member => ?_
  have bounds : 48 ≤ c.toNat ∧ c.toNat ≤ 57 := by
    simpa [Char.isDigit, UInt32.le_iff_toNat_le] using digits c member
  omega

theorem visible_join {separator : Text} (between : separator.IsVisible) {texts : List Text}
    (parts : ∀ t ∈ texts, t.IsVisible) : (join separator texts).IsVisible := by
  induction texts with
  | nil => nofun
  | cons t texts ih =>
    obtain ⟨first, rest⟩ := List.forall_mem_cons.mp parts
    cases texts with
    | nil => exact first
    | cons u texts => exact (first.append between).append (ih rest)

end ChallengeDns.Text
