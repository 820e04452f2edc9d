import Mathlib
import ChallengeDns.Name.Contact
import ChallengeDns.Proofs.Name.Text

/-!
# The local part of an address

A local part is a sequence of octets, each written as itself, behind a backslash, or with three
digits.  The name of the address has the local part as its first label, unless a dot stands behind
a backslash or an escaped backslash stands last: of the first only the backslash is escaped once
more, and the second hides the `@` behind it.
-/
namespace ChallengeDns.Contact

open Name

/-! ### How a local part is written -/

inductive Form where
  | plain
  | quoted
  | number
deriving DecidableEq

/-- Whether ASCII text can have an octet in a form.  A backslash and an `@` mean something else when
they are plain, and a digit behind a backslash begins a number. -/
def Form.allows : Form → UInt8 → Bool
  | .plain, b => b < 0x80 && b != 0x5C && b != 0x40
  | .quoted, b => b < 0x80 && (b < 0x30 || 0x39 < b)
  | .number, _ => true

/-- An octet and the way in which it is written. -/
structure Piece where
  form : Form
  octet : UInt8
  allowed : form.allows octet = true
deriving DecidableEq

namespace Piece

def text (p : Piece) : Text :=
  match p.form with
  | .plain => [octetPoint p.octet]
  | .quoted => [.scalar '\\', octetPoint p.octet]
  | .number => numberText p.octet

/-- An octet that is written behind a backslash. -/
def IsQuoted (b : UInt8) (p : Piece) : Prop := p.form = .quoted ∧ p.octet = b

instance (b : UInt8) (p : Piece) : Decidable (p.IsQuoted b) :=
  inferInstanceAs (Decidable (_ ∧ _))

end Piece

/-- A local part that can be a label. -/
structure LocalPart where
  pieces : List Piece
  filled : pieces ≠ []
  short : pieces.length ≤ 63

namespace LocalPart

def text (u : LocalPart) : Text := u.pieces.flatMap Piece.text

def octets (u : LocalPart) : Label := u.pieces.map Piece.octet

end LocalPart

/-! ### Splitting -/

theorem plain_octet (b : UInt8) (allowed : Form.plain.allows b = true) :
    octetPoint b ≠ .scalar '\\' ∧ octetPoint b ≠ .scalar '@' ∧
      (octetPoint b ≠ .scalar '.' → isDot (octetPoint b) = false) := by
  revert b
  exact forall_octet (by decide +kernel)

theorem quoted_octet (b : UInt8) (allowed : Form.quoted.allows b = true) :
    (octetPoint b).decimal? = none := by
  revert b
  exact forall_octet (by decide +kernel)

theorem octetPoint_injective : Function.Injective octetPoint := by
  intro a b equal
  rw [← value_octetPoint a, equal, value_octetPoint]

theorem octetPoint_eq_dot {b : UInt8} : octetPoint b = .scalar '.' ↔ b = 0x2E := by
  rw [show CodePoint.scalar '.' = octetPoint 0x2E by decide, octetPoint_injective.eq_iff]

theorem digitPoint_plain {d : Nat} (small : d < 10) :
    digitPoint d ≠ .scalar '\\' ∧ digitPoint d ≠ .scalar '@' ∧ digitPoint d ≠ .scalar '.' := by
  have all : ∀ d : Fin 10, digitPoint d ≠ .scalar '\\' ∧ digitPoint d ≠ .scalar '@' ∧
      digitPoint d ≠ .scalar '.' := by decide
  exact all ⟨d, small⟩

/-- The last code point of a piece. -/
def Piece.last (p : Piece) : CodePoint :=
  match p.form with
  | .number => digitPoint (p.octet.toNat % 10)
  | _ => octetPoint p.octet

theorem Piece.last_eq_backslash (p : Piece) : p.last = .scalar '\\' ↔ p.IsQuoted 0x5C := by
  obtain ⟨form, b, allowed⟩ := p
  have backslash : octetPoint 0x5C = .scalar '\\' := by decide
  cases form with
  | plain => simp [last, IsQuoted, (plain_octet b allowed).1]
  | quoted => simp [last, IsQuoted, ← backslash, octetPoint_injective.eq_iff]
  | number => simp [last, IsQuoted, (digitPoint_plain (Nat.mod_lt b.toNat (by decide))).1]

theorem split?_cons {previous : Option CodePoint} {c : CodePoint}
    (inside : c ≠ .scalar '@' ∨ previous = some (.scalar '\\')) (rest : Text) :
    split? previous (c :: rest) = (split? (some c) rest).map fun r => (c :: r.1, r.2) := by
  have apart : ¬(c = .scalar '@' && previous ≠ some (.scalar '\\')) = true := by
    rcases inside with other | hidden
    · simp [other]
    · simp [hidden]
  rw [split?, if_neg apart]

theorem split?_piece (previous : Option CodePoint) (p : Piece) (rest : Text) :
    split? previous (p.text ++ rest) =
      (split? (some p.last) rest).map fun r => (p.text ++ r.1, r.2) := by
  obtain ⟨form, b, allowed⟩ := p
  cases form with
  | plain => exact split?_cons (Or.inl (plain_octet b allowed).2.1) rest
  | quoted =>
    simp only [Piece.text, Piece.last, List.cons_append, List.nil_append]
    rw [split?_cons (Or.inl (by decide)), split?_cons (Or.inr rfl), Option.map_map]
    rfl
  | number =>
    have digit (n : Nat) : digitPoint (n % 10) ≠ .scalar '@' :=
      (digitPoint_plain (Nat.mod_lt n (by decide))).2.1
    have hundreds : digitPoint (b.toNat / 100) ≠ .scalar '@' :=
      (digitPoint_plain (by have := b.toNat_lt; omega)).2.1
    simp only [Piece.text, Piece.last, numberText, List.cons_append, List.nil_append]
    rw [split?_cons (Or.inl (by decide)), split?_cons (Or.inl hundreds),
      split?_cons (Or.inl (digit _)), split?_cons (Or.inl (digit _)), Option.map_map,
      Option.map_map, Option.map_map]
    rfl

/-- No `@` of a local part is taken for the one behind it. -/
theorem split?_pieces (previous : Option CodePoint) (ps : List Piece) (p : Piece) (rest : Text) :
    split? previous ((ps ++ [p]).flatMap Piece.text ++ rest) =
      (split? (some p.last) rest).map fun r => ((ps ++ [p]).flatMap Piece.text ++ r.1, r.2) := by
  induction ps generalizing previous with
  | nil => simpa using split?_piece previous p rest
  | cons q ps ih =>
    rw [List.cons_append, List.flatMap_cons, List.append_assoc, split?_piece, ih, Option.map_map]
    simp only [Function.comp_def, List.append_assoc]

/-! ### Scanning -/

/-- The octets of the code points of a label. -/
def octetsOf (label : Text) : Label := label.map fun c => c.value.toUInt8

/-- Whatever stands in the text, the first label that is found starts with what has been read. -/
theorem scan_prefix {label t : Text} {escape : Escape} {labels : List Label}
    (done : scan plainLabel label escape t = .ok labels) :
    ∃ more others, labels = (octetsOf label.reverse ++ more) :: others := by
  -- By induction on the text; an escape changes what is read, but not what has been read.
  induction t generalizing label escape labels with
  | nil =>
    cases escape with
    | closed =>
      rw [scan] at done
      split at done
      next empty =>
        cases done
        rw [List.isEmpty_iff.mp empty]
        exact ⟨[], [], rfl⟩
      next =>
        cases done
        exact ⟨[], [], by rw [List.append_nil]; rfl⟩
    | opened => cases done
    | digits count value => cases done
  | cons c t ih =>
    -- A code point more behind the label leaves its octets in front.
    have longer (more : Text) {labels : List Label}
        (found : ∃ tail others, labels = (octetsOf (more ++ label).reverse ++ tail) :: others) :
        ∃ tail others, labels = (octetsOf label.reverse ++ tail) :: others := by
      obtain ⟨tail, others, rfl⟩ := found
      exact ⟨octetsOf more.reverse ++ tail, others, by simp [octetsOf]⟩
    cases escape with
    | closed =>
      rw [scan] at done
      split at done
      · split at done
        · cases done
        · cases rest : scan plainLabel [] .closed t with
          | error e => simp [plainLabel, rest, Except.map] at done
          | ok ls =>
            simp only [plainLabel, rest, Except.map, Except.ok.injEq] at done
            subst done
            exact ⟨[], ls, by rw [List.append_nil]; rfl⟩
      · split at done
        · exact ih done
        · exact longer [c] (ih done)
    | opened =>
      rw [scan] at done
      split at done
      · exact longer [c] (ih done)
      · exact ih done
    | digits count value =>
      rw [scan] at done
      split at done
      · cases done
      · dsimp only at done
        split at done
        · exact ih done
        · split at done
          · cases done
          · exact longer _ (ih done)

/-- A dot ends the label that has been read. -/
theorem scan_dot {label : Text} (some : label ≠ []) (rest : Text) :
    scan plainLabel label .closed (.scalar '.' :: rest) =
      (scan plainLabel [] .closed rest).map (octetsOf label.reverse :: ·) := by
  rw [scan, if_pos (by decide), if_neg (by simpa using some)]
  rfl

theorem scan_dot_ok {label rest : Text} {labels : List Label}
    (done : scan plainLabel label .closed (.scalar '.' :: rest) = .ok labels) :
    ∃ others, labels = octetsOf label.reverse :: others := by
  cases label with
  | nil =>
    rw [scan, if_pos (by decide)] at done
    cases done
  | cons c label =>
    rw [scan_dot (List.cons_ne_nil c label)] at done
    cases later : scan plainLabel [] .closed rest with
    | error e => simp [later, Except.map] at done
    | ok ls =>
      simp only [later, Except.map, Except.ok.injEq] at done
      exact ⟨ls, done.symm⟩

section Pieces

variable (encode : Text → Except NameFault Label)

/-- A piece is read as its octet. -/
def Pushes (written : Piece → Text) (p : Piece) : Prop :=
  ∀ label rest, scan encode label .closed (written p ++ rest) =
    scan encode (octetPoint p.octet :: label) .closed rest

theorem scan_pieces {written : Piece → Text} {ps : List Piece}
    (pushed : ∀ p ∈ ps, Pushes encode written p) (label rest : Text) :
    scan encode label .closed (ps.flatMap written ++ rest) =
      scan encode ((ps.map fun p => octetPoint p.octet).reverse ++ label) .closed rest := by
  induction ps generalizing label with
  | nil => rfl
  | cons p ps ih =>
    obtain ⟨first, later⟩ := List.forall_mem_cons.mp pushed
    rw [List.flatMap_cons, List.append_assoc, first, ih later]
    simp

/-- The text of a piece with its dots escaped. -/
def Piece.escaped (p : Piece) : Text := Text.replace (.scalar '.') "\\." p.text

theorem escaped_of_notMem {p : Piece} (absent : .scalar '.' ∉ p.text) : p.escaped = p.text := by
  have alone (c : CodePoint) (member : c ∈ p.text) :
      (if c = .scalar '.' then ("\\." : Text) else [c]) = [c] :=
    if_neg fun (dot : c = .scalar '.') => absent (dot ▸ member)
  rw [Piece.escaped, Text.replace, List.flatMap_congr alone, List.flatMap_singleton']

theorem dot_notMem_text {p : Piece} (notDot : p.form = .plain → p.octet ≠ 0x2E)
    (notQuoted : ¬p.IsQuoted 0x2E) : .scalar '.' ∉ p.text := by
  obtain ⟨form, b, allowed⟩ := p
  have digit (n : Nat) (small : n < 10) : CodePoint.scalar '.' ≠ digitPoint n :=
    (digitPoint_plain small).2.2.symm
  cases form with
  | plain =>
    have other : CodePoint.scalar '.' ≠ octetPoint b :=
      fun dot => notDot rfl (octetPoint_eq_dot.mp dot.symm)
    simpa [Piece.text] using other
  | quoted =>
    have other : CodePoint.scalar '.' ≠ octetPoint b :=
      fun dot => notQuoted ⟨rfl, octetPoint_eq_dot.mp dot.symm⟩
    simpa [Piece.text] using other
  | number =>
    have bound := b.toNat_lt
    simp [Piece.text, numberText, digit _ (show b.toNat / 100 < 10 by omega),
      digit _ (show b.toNat / 10 % 10 < 10 by omega), digit _ (show b.toNat % 10 < 10 by omega)]

theorem pushes_text {p : Piece} (notDot : p.form = .plain → p.octet ≠ 0x2E) :
    Pushes encode Piece.text p := by
  intro label rest
  obtain ⟨form, b, allowed⟩ := p
  cases form with
  | plain =>
    obtain ⟨notEscape, _, dotFree⟩ := plain_octet b allowed
    have other : octetPoint b ≠ .scalar '.' := fun dot => notDot rfl (octetPoint_eq_dot.mp dot)
    exact scan_plain encode (dotFree other) notEscape label rest
  | quoted => exact scan_quoted encode (quoted_octet b allowed) label rest
  | number => exact scan_number encode b label rest

theorem pushes_escaped {p : Piece} (notQuoted : ¬p.IsQuoted 0x2E) :
    Pushes encode Piece.escaped p := by
  by_cases dot : p.form = .plain ∧ p.octet = 0x2E
  · -- A plain dot gets its backslash.
    intro label rest
    have text : p.escaped = [.scalar '\\', octetPoint p.octet] := by
      rw [Piece.escaped, Piece.text, dot.1, dot.2]
      decide
    rw [text]
    exact scan_quoted encode (dot.2 ▸ quoted_octet 0x2E rfl) label rest
  · have absent := dot_notMem_text (fun plain octet => dot ⟨plain, octet⟩) notQuoted
    intro label rest
    rw [escaped_of_notMem absent]
    exact pushes_text encode (fun plain octet => dot ⟨plain, octet⟩) label rest

/-- Of a dot behind a backslash nothing but the backslash is escaped, and the dot is bare. -/
theorem scan_escaped_dot {p : Piece} (quoted : p.IsQuoted 0x2E) (label rest : Text) :
    scan encode label .closed (p.escaped ++ rest) =
      scan encode (octetPoint 0x5C :: label) .closed (.scalar '.' :: rest) := by
  have text : p.escaped = [.scalar '\\', octetPoint 0x5C, .scalar '.'] := by
    rw [Piece.escaped, Piece.text, quoted.1, quoted.2]
    decide
  rw [text]
  exact scan_quoted encode (quoted_octet 0x5C rfl) label (.scalar '.' :: rest)

end Pieces

section First

variable {ps : List Piece} {rest : Text} {others : List Label}

theorem octetsOf_pieces (ps : List Piece) :
    octetsOf (ps.map fun p => octetPoint p.octet) = ps.map Piece.octet := by
  simp [octetsOf, value_octetPoint]

/-- If all octets are in the first label, no dot has been escaped twice. -/
theorem notQuoted_of_scan
    (done : scan plainLabel [] .closed (ps.flatMap Piece.escaped ++ rest) =
      .ok (ps.map Piece.octet :: others)) : ∀ p ∈ ps, ¬p.IsQuoted 0x2E := by
  by_contra twice
  push Not at twice
  -- Up to the first of these dots everything is in the label, and there it ends.
  obtain ⟨p, found⟩ : ∃ p, ps.find? (fun p => p.IsQuoted 0x2E) = some p := by
    rw [← Option.isSome_iff_exists, List.find?_isSome]
    simpa using twice
  obtain ⟨quoted, before, after, rfl, single⟩ := List.find?_eq_some_iff_append.mp found
  have quoted : p.IsQuoted 0x2E := of_decide_eq_true quoted
  have pushed : ∀ q ∈ before, Pushes plainLabel Piece.escaped q :=
    fun q member => pushes_escaped plainLabel (by simpa using single q member)
  rw [List.flatMap_append, List.flatMap_cons, List.append_assoc, List.append_assoc,
    scan_pieces plainLabel pushed, scan_escaped_dot plainLabel quoted] at done
  obtain ⟨ls, first⟩ := scan_dot_ok done
  rw [List.append_nil, List.reverse_cons, List.reverse_reverse, octetsOf, List.map_append,
    List.map_append, ← octetsOf, octetsOf_pieces] at first
  have octets := List.append_cancel_left (List.cons.inj first).1
  rw [List.map_cons, quoted.2] at octets
  exact absurd (List.cons.inj octets).1 (by decide)

/-- An `@` that is not replaced is in the label, too. -/
theorem scan_at {written : Piece → Text} (pushed : ∀ p ∈ ps, Pushes plainLabel written p) :
    scan plainLabel [] .closed (ps.flatMap written ++ .scalar '@' :: rest) ≠
      .ok (ps.map Piece.octet :: others) := by
  intro done
  rw [scan_pieces plainLabel pushed, scan_plain plainLabel (by decide) (by decide)] at done
  obtain ⟨more, ls, first⟩ := scan_prefix done
  have longer := congrArg List.length (List.cons.inj first).1
  simp only [octetsOf, List.append_nil, List.reverse_cons, List.reverse_reverse, List.map_append,
    List.map_cons, List.map_nil, List.length_append, List.length_map, List.length_cons,
    List.length_nil] at longer
  omega

theorem scan_text_at : scan plainLabel [] .closed (ps.flatMap Piece.text ++ .scalar '@' :: rest) ≠
    .ok (ps.map Piece.octet :: others) := by
  -- Either the label goes on behind the local part, or it ends at the first plain dot.
  by_cases bare : ∀ p ∈ ps, p.form = .plain → p.octet ≠ 0x2E
  · exact scan_at fun p member => pushes_text plainLabel (bare p member)
  · intro done
    push Not at bare
    obtain ⟨p, found⟩ : ∃ p, ps.find? (fun p => p.form = .plain ∧ p.octet = 0x2E) = some p := by
      rw [← Option.isSome_iff_exists, List.find?_isSome]
      simpa using bare
    obtain ⟨plain, before, after, rfl, single⟩ := List.find?_eq_some_iff_append.mp found
    have plain : p.form = .plain ∧ p.octet = 0x2E := of_decide_eq_true plain
    have text : p.text = [.scalar '.'] := by
      rw [Piece.text, plain.1, plain.2]
      decide
    have pushed : ∀ q ∈ before, Pushes plainLabel Piece.text q := by
      refine fun q member => pushes_text plainLabel fun form octet => ?_
      have other := single q member
      simp [form, octet] at other
    rw [List.flatMap_append, List.flatMap_cons, List.append_assoc, List.append_assoc,
      scan_pieces plainLabel pushed, text, List.singleton_append] at done
    obtain ⟨ls, first⟩ := scan_dot_ok done
    have shorter := congrArg List.length (List.cons.inj first).1
    simp only [octetsOf, List.append_nil, List.reverse_reverse, List.length_map,
      List.length_append, List.length_cons] at shorter
    omega

end First

/-! ### The name of an address -/

theorem split?_append {previous : Option CodePoint} {t : Text} {r : Text × Text}
    (split : split? previous t = some r) : t = r.1 ++ .scalar '@' :: r.2 := by
  induction t generalizing previous r with
  | nil => cases split
  | cons c t ih =>
    rw [split?] at split
    split at split
    next found =>
      cases split
      simp only [Bool.and_eq_true, decide_eq_true_eq] at found
      rw [found.1, List.nil_append]
    next =>
      obtain ⟨later, rest, rfl⟩ := Option.map_eq_some_iff.mp split
      rw [ih rest]
      rfl

theorem replace_append (c : CodePoint) (new t u : Text) :
    Text.replace c new (t ++ u) = Text.replace c new t ++ Text.replace c new u :=
  List.flatMap_append

theorem isAscii_append_cons {t u : Text} {c : CodePoint} :
    Text.isAscii (t ++ c :: u) = true ↔ t.isAscii = true ∧ c.isAscii = true ∧ u.isAscii = true := by
  simp [Text.isAscii]

theorem replace_ascii {t : Text} (ascii : t.isAscii = true) :
    (Text.replace (.scalar '.') "\\." t).isAscii = true := by
  rw [Text.isAscii, List.all_eq_true] at ascii
  rw [Text.isAscii, Text.replace, List.all_flatMap, List.all_eq_true]
  intro c member
  split
  · decide
  · simpa using ascii c member

theorem nameText_ascii {address : Text} (ascii : address.isAscii = true) :
    (nameText address).isAscii = true := by
  unfold nameText
  cases split : split? none address with
  | none => exact ascii
  | some r =>
    rw [split?_append split] at ascii
    obtain ⟨user, _, domain⟩ := isAscii_append_cons.mp ascii
    dsimp only
    rw [List.append_assoc]
    exact isAscii_append_cons.mpr ⟨replace_ascii user, by decide, domain⟩

theorem piece_ascii (p : Piece) : p.text.isAscii = true := by
  obtain ⟨form, b, allowed⟩ := p
  cases form with
  | plain =>
    revert b
    exact forall_octet (by decide +kernel)
  | quoted =>
    revert b
    exact forall_octet (by decide +kernel)
  | number =>
    change (numberText b).isAscii = true
    clear allowed
    revert b
    exact forall_octet (by decide +kernel)

theorem piece_ne_nil (p : Piece) : p.text ≠ [] := by
  unfold Piece.text
  cases p.form <;> exact List.cons_ne_nil _ _

theorem escaped_ne_nil (p : Piece) : p.escaped ≠ [] := by
  obtain ⟨c, t, text⟩ := List.exists_cons_of_ne_nil (piece_ne_nil p)
  rw [Piece.escaped, text, Text.replace, List.flatMap_cons]
  split <;> exact List.cons_ne_nil _ _

theorem escaped_pieces (ps : List Piece) :
    Text.replace (.scalar '.') "\\." (ps.flatMap Piece.text) = ps.flatMap Piece.escaped :=
  List.flatMap_assoc

section Last

variable {ps : List Piece} {p : Piece} (domain : Text)

/-- An `@` that no escaped backslash precedes is replaced. -/
theorem nameText_of_shown (shown : ¬p.IsQuoted 0x5C) :
    nameText ((ps ++ [p]).flatMap Piece.text ++ .scalar '@' :: domain) =
      (ps ++ [p]).flatMap Piece.escaped ++ .scalar '.' :: domain := by
  have here : split? (some p.last) (.scalar '@' :: domain) = some ([], domain) := by
    have apart : p.last ≠ .scalar '\\' := fun hidden => shown (p.last_eq_backslash.mp hidden)
    simp [split?, apart]
  rw [nameText, split?_pieces, here, Option.map_some]
  simp only [List.append_nil, escaped_pieces, List.append_assoc]
  rfl

/-- Behind an escaped backslash the `@` stays, whether or not there is another one. -/
theorem nameText_of_hidden (hidden : p.IsQuoted 0x5C) :
    nameText ((ps ++ [p]).flatMap Piece.text ++ .scalar '@' :: domain) =
      (ps ++ [p]).flatMap Piece.text ++ .scalar '@' :: domain ∨
    ∃ rest, nameText ((ps ++ [p]).flatMap Piece.text ++ .scalar '@' :: domain) =
      (ps ++ [p]).flatMap Piece.escaped ++ .scalar '@' :: rest := by
  have passed : split? (some p.last) (.scalar '@' :: domain) =
      (split? (some (.scalar '@')) domain).map fun r => (.scalar '@' :: r.1, r.2) :=
    split?_cons (Or.inr (congrArg some (p.last_eq_backslash.mpr hidden))) domain
  rw [nameText, split?_pieces, passed]
  cases split? (some (.scalar '@')) domain with
  | none => exact Or.inl rfl
  | some r =>
    right
    refine ⟨Text.replace (.scalar '.') "\\." r.1 ++ ("." : Text) ++ r.2, ?_⟩
    simp only [Option.map_some, replace_append, escaped_pieces, List.append_assoc]
    rfl

end Last

theorem head_of_kept {labels : List Label} {l : Label} {more : List Label}
    (kept : (if labels.getLast? = some [] then labels.dropLast else labels) = l :: more) :
    ∃ others, labels = l :: others := by
  split at kept
  · cases labels with
    | nil => cases kept
    | cons first rest =>
      cases rest with
      | nil => cases kept
      | cons second rest =>
        rw [List.dropLast_cons_cons] at kept
        exact ⟨_, by rw [(List.cons.inj kept).1]⟩
  · exact ⟨more, kept⟩

section Behind

variable {written : Piece → Text} {ps : List Piece} {c : CodePoint} {rest : Text} {n : Name}
  (visible : ∀ p, written p ≠ []) (filled : ps ≠ [])
  (ascii : Text.isAscii (ps.flatMap written ++ c :: rest) = true)
include visible filled ascii

-- A piece with something behind it is none of the texts that are read in ways of their own.
theorem readAbsolute_pieces :
    readAbsolute (ps.flatMap written ++ c :: rest) = .ok n ↔
      ∃ labels, scan plainLabel [] .closed (ps.flatMap written ++ c :: rest) = .ok labels ∧
        (if labels.getLast? = some [] then labels.dropLast else labels) = n.labels ∧
        n.absolute = true := by
  obtain ⟨p, ps, rfl⟩ := List.exists_cons_of_ne_nil filled
  have positive := List.length_pos_iff.mpr (visible p)
  have longer {short : Text} (few : short.length ≤ 1) :
      (p :: ps).flatMap written ++ c :: rest ≠ short := by
    rintro rfl
    simp only [List.flatMap_cons, List.length_append, List.length_cons] at few
    omega
  exact readAbsolute_ok_iff ascii (longer (Nat.zero_le 1)) (longer le_rfl) (longer le_rfl)

theorem scan_of_made (made : readAbsolute (ps.flatMap written ++ c :: rest) = .ok n) {l : Label}
    {more : List Label} (labels : n.labels = l :: more) :
    ∃ others, scan plainLabel [] .closed (ps.flatMap written ++ c :: rest) = .ok (l :: others) := by
  obtain ⟨ls, scanned, kept, _⟩ := (readAbsolute_pieces visible filled ascii).mp made
  obtain ⟨others, rfl⟩ := head_of_kept (kept.trans labels)
  exact ⟨others, scanned⟩

end Behind

theorem address_ascii (ps : List Piece) (p : Piece) {domain : Text}
    (ascii : domain.isAscii = true) :
    Text.isAscii ((ps ++ [p]).flatMap Piece.text ++ .scalar '@' :: domain) = true := by
  refine isAscii_append_cons.mpr ⟨?_, by decide, ascii⟩
  rw [Text.isAscii, List.all_flatMap, List.all_eq_true]
  exact fun q _ => piece_ascii q

section Address

variable {ps : List Piece} {p : Piece} {domain : Text} (ascii : domain.isAscii = true)
include ascii

/-- A name whose first label has all octets tells how these are written. -/
theorem written_of_name {n : Name} {more : List Label}
    (made : name ((ps ++ [p]).flatMap Piece.text ++ .scalar '@' :: domain) = .ok n)
    (labels : n.labels = (ps ++ [p]).map Piece.octet :: more) :
    (∀ q ∈ ps ++ [p], ¬q.IsQuoted 0x2E) ∧ ¬p.IsQuoted 0x5C := by
  have wholly := nameText_ascii (address_ascii ps p ascii)
  have filled : ps ++ [p] ≠ [] := by simp
  rw [name] at made
  by_cases hidden : p.IsQuoted 0x5C
  · -- The `@` is not replaced, so the label goes on behind the local part or ends within it.
    exfalso
    rcases nameText_of_hidden domain hidden with raw | ⟨rest, escaped⟩
    · rw [raw] at made wholly
      obtain ⟨others, scanned⟩ := scan_of_made piece_ne_nil filled wholly made labels
      exact scan_text_at scanned
    · rw [escaped] at made wholly
      obtain ⟨others, scanned⟩ := scan_of_made escaped_ne_nil filled wholly made labels
      have once := notQuoted_of_scan scanned
      exact scan_at (fun q member => pushes_escaped plainLabel (once q member)) scanned
  · rw [nameText_of_shown domain hidden] at made wholly
    obtain ⟨others, scanned⟩ := scan_of_made escaped_ne_nil filled wholly made labels
    exact ⟨notQuoted_of_scan scanned, hidden⟩

/-- The name is made if every octet is read as itself and the `@` is replaced. -/
theorem name_of_written (once : ∀ q ∈ ps ++ [p], ¬q.IsQuoted 0x2E) (shown : ¬p.IsQuoted 0x5C)
    (filled : domain ≠ []) (notAt : domain ≠ [.scalar '@']) (notRoot : domain ≠ [.scalar '.'])
    {d n : Name} (read : readAbsolute domain = .ok d) (absolute : n.absolute = true)
    (labels : n.labels = (ps ++ [p]).map Piece.octet :: d.labels) :
    name ((ps ++ [p]).flatMap Piece.text ++ .scalar '@' :: domain) = .ok n := by
  obtain ⟨ls, scanned, kept, _⟩ := (readAbsolute_ok_iff ascii filled notAt notRoot).mp read
  have pushed : ∀ q ∈ ps ++ [p], Pushes plainLabel Piece.escaped q :=
    fun q member => pushes_escaped plainLabel (once q member)
  have label : ((ps ++ [p]).map fun q => octetPoint q.octet).reverse ++ [] ≠ [] := by simp
  have whole : scan plainLabel [] .closed
      ((ps ++ [p]).flatMap Piece.escaped ++ .scalar '.' :: domain) =
        .ok ((ps ++ [p]).map Piece.octet :: ls) := by
    rw [scan_pieces plainLabel pushed, scan_dot label, scanned, List.append_nil,
      List.reverse_reverse, octetsOf_pieces]
    rfl
  have wholly := nameText_ascii (address_ascii ps p ascii)
  rw [name]
  rw [nameText_of_shown domain shown] at wholly ⊢
  refine (readAbsolute_pieces escaped_ne_nil (by simp) wholly).mpr ⟨_, whole, ?_, absolute⟩
  -- The domain has a label, so the last label is one of its labels.
  obtain ⟨_, _, rfl⟩ := scan_prefix scanned
  rw [labels, ← kept, List.getLast?_cons_cons, List.dropLast_cons_cons]
  split <;> rfl

end Address

/-- The name of an address has the octets of the local part as its first label and the labels of the
domain behind it, unless the local part has a dot behind a backslash or ends with an escaped
backslash. -/
theorem local_part_kept_iff (u : LocalPart) {domain : Text} {d : Name}
    (ascii : domain.isAscii = true) (filled : domain ≠ []) (notAt : domain ≠ [.scalar '@'])
    (notRoot : domain ≠ [.scalar '.']) (read : readAbsolute domain = .ok d)
    (fits : wireLength (u.octets :: d.labels) true ≤ 255) :
    (∃ n, name (u.text ++ "@" ++ domain) = .ok n ∧ n.labels = u.octets :: d.labels ∧
      n.absolute = true) ↔
    (∀ p ∈ u.pieces, ¬p.IsQuoted 0x2E) ∧ ∀ p ∈ u.pieces.getLast?, ¬p.IsQuoted 0x5C := by
  have size : ∀ l ∈ u.octets :: d.labels, 0 < l.length ∧ l.length ≤ 63 := by
    refine List.forall_mem_cons.mpr ⟨?_, d.label_size⟩
    rw [LocalPart.octets, List.length_map]
    exact ⟨List.length_pos_iff.mpr u.filled, u.short⟩
  -- The last piece counts on its own, since it stands in front of the sign.
  obtain ⟨ps, p, pieces⟩ : ∃ ps p, u.pieces = ps ++ [p] :=
    ⟨_, _, (List.dropLast_append_getLast u.filled).symm⟩
  have address : u.text ++ "@" ++ domain =
      (ps ++ [p]).flatMap Piece.text ++ .scalar '@' :: domain := by
    rw [LocalPart.text, pieces, List.append_assoc]
    rfl
  have octets : u.octets = (ps ++ [p]).map Piece.octet := by rw [LocalPart.octets, pieces]
  have last : (∀ q ∈ u.pieces.getLast?, ¬q.IsQuoted 0x5C) ↔ ¬p.IsQuoted 0x5C := by
    simp [pieces]
  rw [last, address, pieces]
  constructor
  · rintro ⟨n, made, labels, _⟩
    exact written_of_name ascii made (octets ▸ labels)
  · rintro ⟨once, shown⟩
    let n : Name := ⟨u.octets :: d.labels, true, size, fits⟩
    have labels : n.labels = (ps ++ [p]).map Piece.octet :: d.labels := by rw [← octets]
    exact ⟨n, name_of_written ascii once shown filled notAt notRoot read rfl labels, rfl, rfl⟩

/-! ### A dot in both ways -/

def plainPiece (b : UInt8) (allowed : Form.plain.allows b = true) : Piece := ⟨.plain, b, allowed⟩

/-- The local part `a.b`. -/
def sampleUser : LocalPart :=
  ⟨[plainPiece 0x61 rfl, plainPiece 0x2E rfl, plainPiece 0x62 rfl], by decide, by decide⟩

/-- The same local part with a backslash before the dot. -/
def quotedUser : LocalPart :=
  ⟨[plainPiece 0x61 rfl, ⟨.quoted, 0x2E, rfl⟩, plainPiece 0x62 rfl], by decide, by decide⟩

def sampleDomain : Name := ⟨[[0x63]], true, by decide, by decide⟩

theorem local_part_kept_sample :
    (∃ n, name "a.b@c" = .ok n ∧ n.labels = [[0x61, 0x2E, 0x62], [0x63]] ∧ n.absolute = true) ∧
    ¬∃ n, name "a\\.b@c" = .ok n ∧ n.labels = [[0x61, 0x2E, 0x62], [0x63]] ∧
      n.absolute = true := by
  have read : readAbsolute "c" = .ok sampleDomain := by rfl
  have kept (u : LocalPart) (fits : wireLength (u.octets :: sampleDomain.labels) true ≤ 255) :=
    local_part_kept_iff u (by decide) (by decide) (by decide) (by decide) read fits
  exact ⟨(kept sampleUser (by decide)).mpr (by decide),
    fun good => absurd ((kept quotedUser (by decide)).mp good) (by decide)⟩

end ChallengeDns.Contact
