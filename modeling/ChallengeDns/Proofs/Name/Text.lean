import Mathlib
import ChallengeDns.Proofs.Name.Canonical

/-!
# Names come back from their text

Each octet of a label is written in one of three forms, and each form is read as that octet again,
whatever stands around it.
-/
namespace ChallengeDns.Name

/-- What holds of the 256 octets holds of every octet. -/
theorem forall_octet {P : UInt8 → Prop} (all : ∀ n : Fin 256, P (.ofFin n)) (b : UInt8) : P b := by
  simpa using all b.toFin

/-- The code point that stands for an octet while a label is read. -/
def octetPoint (b : UInt8) : CodePoint := .scalar (Char.ofNat b.toNat)

def digitPoint (d : Nat) : CodePoint := .scalar (Nat.digitChar d)

/-- Three digits behind a backslash. -/
def numberText (b : UInt8) : Text :=
  [.scalar '\\', digitPoint (b.toNat / 100), digitPoint (b.toNat / 10 % 10),
    digitPoint (b.toNat % 10)]

/-- An octet is written as itself, behind a backslash, or with three digits behind a backslash. -/
theorem octetText_cases (b : UInt8) :
    (octetText b = [octetPoint b] ∧ isDot (octetPoint b) = false ∧
      octetPoint b ≠ .scalar '\\') ∨
    (octetText b = [.scalar '\\', octetPoint b] ∧ (octetPoint b).decimal? = none) ∨
    octetText b = numberText b := by
  revert b
  exact forall_octet (by decide +kernel)

theorem digitPoint_decimal {d : Nat} (small : d < 10) : (digitPoint d).decimal? = some d := by
  have all : ∀ d : Fin 10, (digitPoint d).decimal? = some d.val := by decide
  exact all ⟨d, small⟩

theorem ofNat?_octet (b : UInt8) : CodePoint.ofNat? b.toNat = some (octetPoint b) := by
  revert b
  exact forall_octet (by decide +kernel)

theorem value_octetPoint (b : UInt8) : (octetPoint b).value.toUInt8 = b := by
  revert b
  exact forall_octet (by decide +kernel)

theorem octetText_ascii (b : UInt8) : (octetText b).isAscii = true := by
  revert b
  exact forall_octet (by decide +kernel)

section Scan

variable (encode : Text → Except NameFault Label)

theorem scan_plain {c : CodePoint} (notDot : isDot c = false) (notEscape : c ≠ .scalar '\\')
    (label rest : Text) :
    scan encode label .closed (c :: rest) = scan encode (c :: label) .closed rest := by
  rw [scan, if_neg (by simp [notDot]), if_neg notEscape]

theorem scan_quoted {c : CodePoint} (notDigit : c.decimal? = none) (label rest : Text) :
    scan encode label .closed (.scalar '\\' :: c :: rest) =
      scan encode (c :: label) .closed rest := by
  rw [scan, if_neg (by decide), if_pos rfl, scan, notDigit]

theorem scan_number (b : UInt8) (label rest : Text) :
    scan encode label .closed (numberText b ++ rest) =
      scan encode (octetPoint b :: label) .closed rest := by
  have bound := b.toNat_lt
  have one := digitPoint_decimal (show b.toNat / 100 < 10 by omega)
  have two := digitPoint_decimal (show b.toNat / 10 % 10 < 10 by omega)
  have three := digitPoint_decimal (show b.toNat % 10 < 10 by omega)
  -- Three digits, with zeros in front, are enough for any octet.
  have number : (b.toNat / 100 * 10 + b.toNat / 10 % 10) * 10 + b.toNat % 10 = b.toNat := by omega
  simp only [numberText, List.cons_append, List.nil_append]
  rw [scan, if_neg (by decide), if_pos rfl, scan, one]
  simp only [scan, two, three, number, ofNat?_octet]
  rw [if_pos (by decide), if_neg (by decide), if_neg (by omega)]
  rfl

theorem scan_octetText (label : Text) (b : UInt8) (rest : Text) :
    scan encode label .closed (octetText b ++ rest) =
      scan encode (octetPoint b :: label) .closed rest := by
  rcases octetText_cases b with ⟨text, notDot, notEscape⟩ | ⟨text, notDigit⟩ | text
  · rw [text]
    exact scan_plain encode notDot notEscape label rest
  · rw [text]
    exact scan_quoted encode notDigit label rest
  · rw [text, scan_number]

theorem scan_labelText (label : Text) (l : Label) (rest : Text) :
    scan encode label .closed (labelText l ++ rest) =
      scan encode ((l.map octetPoint).reverse ++ label) .closed rest := by
  induction l generalizing label with
  | nil => rfl
  | cons b l ih =>
    rw [labelText, List.flatMap_cons, List.append_assoc, scan_octetText]
    exact (ih (octetPoint b :: label)).trans (by simp)

end Scan

theorem plainLabel_octets (l : Label) : plainLabel (l.map octetPoint) = .ok l := by
  have octets : (l.map octetPoint).map (fun c => c.value.toUInt8) = l := by
    simp [List.map_map, Function.comp_def, value_octetPoint]
  rw [plainLabel, octets]

/-- The text of an absolute name has a dot behind each label. -/
theorem join_labelText {labels : List Label} (some : labels ≠ []) :
    Text.join [.scalar '.'] (labels.map labelText) ++ [.scalar '.'] =
      labels.flatMap fun l => labelText l ++ [CodePoint.scalar '.'] := by
  induction labels with
  | nil => exact absurd rfl some
  | cons l labels ih =>
    cases labels with
    | nil => simp [Text.join]
    | cons m labels =>
      have rest := ih (List.cons_ne_nil m labels)
      rw [List.flatMap_cons, ← rest]
      simp [Text.join]

theorem scan_labels {labels : List Label} (filled : ∀ l ∈ labels, 0 < l.length) :
    scan plainLabel [] .closed (labels.flatMap fun l => labelText l ++ [CodePoint.scalar '.']) =
      .ok (labels ++ [[]]) := by
  induction labels with
  | nil => rfl
  | cons l labels ih =>
    obtain ⟨first, rest⟩ := List.forall_mem_cons.mp filled
    have label : ¬((l.map octetPoint).reverse ++ []).isEmpty = true := by
      have some : l ≠ [] := List.ne_nil_of_length_pos first
      simpa using some
    have octets : plainLabel ((l.map octetPoint).reverse ++ []).reverse = .ok l := by
      rw [List.append_nil, List.reverse_reverse, plainLabel_octets]
    rw [List.flatMap_cons, List.append_assoc, scan_labelText, List.singleton_append, scan,
      if_pos (by decide), if_neg label, octets]
    simp only [ih rest]
    rfl

theorem text_of_labels {n : Name} (absolute : n.absolute = true) (some : n.labels ≠ []) :
    n.text = n.labels.flatMap fun l => labelText l ++ [CodePoint.scalar '.'] := by
  have filled : ¬n.labels.isEmpty = true := by simpa using some
  rw [text, if_neg filled, if_pos absolute, ← join_labelText some]
  rfl

theorem labelText_ascii (l : Label) : (labelText l).isAscii = true := by
  simp only [Text.isAscii, labelText, List.all_flatMap, List.all_eq_true]
  intro b _
  have octet := octetText_ascii b
  rwa [Text.isAscii, List.all_eq_true] at octet

theorem text_ascii {n : Name} (absolute : n.absolute = true) : n.text.isAscii = true := by
  by_cases root : n.labels = []
  · simp only [text, root, absolute]
    decide
  · rw [text_of_labels absolute root, Text.isAscii, List.all_flatMap, List.all_eq_true]
    intro l _
    rw [List.all_append, Bool.and_eq_true]
    exact ⟨labelText_ascii l, by decide⟩

theorem length_labelText (l : Label) : l.length ≤ (labelText l).length := by
  induction l with
  | nil => exact Nat.zero_le _
  | cons b l ih =>
    have octet : 1 ≤ (octetText b).length := by
      rcases octetText_cases b with ⟨text, _⟩ | ⟨text, _⟩ | text <;> simp [text, numberText]
    rw [labelText, List.flatMap_cons, List.length_append, List.length_cons]
    rw [labelText] at ih
    omega

/-- There are other dots, but these are beyond ASCII. -/
theorem eq_dot_of_isAscii {c : CodePoint} (ascii : c.isAscii = true) (dot : isDot c = true) :
    c = .scalar '.' := by
  have small : c.value < 0x80 := by simpa [CodePoint.isAscii] using ascii
  have value : c.value = 0x2E := by
    simp only [isDot, Bool.or_eq_true, beq_iff_eq] at dot
    omega
  cases c with
  | surrogate half =>
    simp only [CodePoint.value] at value
    omega
  | scalar c => rw [show c = '.' from Char.toNat_inj.mp value]

/-- ASCII text is scanned, but for the three texts that are read in ways of their own. -/
theorem splitText_scan {t : Text} (ascii : t.isAscii = true) (filled : t ≠ [])
    (notAt : t ≠ [.scalar '@']) (notRoot : t ≠ [.scalar '.']) :
    splitText t = (scan plainLabel [] .closed t).map fun labels =>
      if labels.getLast? = some [] then (labels.dropLast, true) else (labels, false) := by
  have own : ¬(t.isEmpty || decide (t = [.scalar '@'])) = true := by
    simp [filled, notAt]
  have apart : ¬(t.all isDot && t.length = 1) = true := by
    intro dots
    obtain ⟨all, single⟩ := (Bool.and_eq_true _ _).mp dots
    obtain ⟨c, rfl⟩ := List.length_eq_one_iff.mp (of_decide_eq_true single)
    have dot := eq_dot_of_isAscii (c := c) (by simpa [Text.isAscii] using ascii)
      (by simpa using all)
    exact notRoot (congrArg (fun c => [c]) dot)
  unfold splitText
  rw [if_neg own, if_neg apart]
  simp only [ascii, if_true]
  cases scan plainLabel [] .closed t with
  | error e => rfl
  | ok labels => by_cases last : labels.getLast? = some [] <;> simp [Except.map, last]

/-- An absolute name in ASCII text has the labels that are scanned, without the empty one that
stands for a final dot. -/
theorem readAbsolute_ok_iff {t : Text} {n : Name} (ascii : t.isAscii = true) (filled : t ≠ [])
    (notAt : t ≠ [.scalar '@']) (notRoot : t ≠ [.scalar '.']) :
    readAbsolute t = .ok n ↔ ∃ labels, scan plainLabel [] .closed t = .ok labels ∧
      (if labels.getLast? = some [] then labels.dropLast else labels) = n.labels ∧
      n.absolute = true := by
  have split := splitText_scan ascii filled notAt notRoot
  -- A dot at the end leaves an empty label, which is dropped.
  have parts (labels : List Label) :
      (if labels.getLast? = some [] then (labels.dropLast, true) else (labels, false)) =
        (if labels.getLast? = some [] then labels.dropLast else labels,
          decide (labels.getLast? = some [])) := by
    by_cases last : labels.getLast? = some [] <;> simp [last]
  constructor
  · intro done
    have absolute := readAbsolute_absolute done
    unfold readAbsolute Name.read at done
    cases scanned : scan plainLabel [] .closed t with
    | error e => simp [split, scanned, Except.map] at done
    | ok labels =>
      simp only [split, scanned, Except.map, parts, Bool.or_true] at done
      refine ⟨labels, rfl, ?_, absolute⟩
      cases made : ofLabels (if labels.getLast? = some [] then labels.dropLast else labels)
          true with
      | error f => simp [made] at done
      | ok m =>
        simp only [made, Except.ok.injEq] at done
        exact done ▸ (ofLabels_ok made).1.symm
  · rintro ⟨labels, scanned, kept, absolute⟩
    have made := ofLabels_labels n
    rw [absolute] at made
    unfold readAbsolute Name.read
    simp only [split, scanned, Except.map, parts, kept, Bool.or_true, made]

/-- The text of an absolute name gives its labels and the dot behind them. -/
theorem splitText_text {n : Name} (absolute : n.absolute = true) :
    splitText n.text = .ok (n.labels, true) := by
  by_cases root : n.labels = []
  · simp only [text, root, absolute]
    decide
  · have long : 2 ≤ n.text.length := by
      obtain ⟨l, labels, first⟩ := List.exists_cons_of_ne_nil root
      have filled := (n.label_size l (first ▸ List.mem_cons_self)).1
      have label := length_labelText l
      rw [text_of_labels absolute root, first, List.flatMap_cons, List.length_append,
        List.length_append, List.length_singleton]
      omega
    have scanned : scan plainLabel [] .closed n.text = .ok (n.labels ++ [[]]) := by
      rw [text_of_labels absolute root]
      exact scan_labels fun l member => (n.label_size l member).1
    have longer {short : Text} (few : short.length ≤ 1) : n.text ≠ short := by
      rintro rfl
      omega
    rw [splitText_scan (text_ascii absolute) (longer (Nat.zero_le 1)) (longer le_rfl)
      (longer le_rfl), scanned]
    simp [Except.map]

theorem read_text {n : Name} (absolute : n.absolute = true) (origin : Bool) :
    Name.read origin n.text = .ok n := by
  have made := ofLabels_labels n
  rw [absolute] at made
  rw [Name.read, splitText_text absolute]
  dsimp only
  rw [Bool.true_or, made]

/-- Absolute names are told apart by their texts. -/
theorem text_injective {m n : Name} (left : m.absolute = true) (right : n.absolute = true)
    (equal : m.text = n.text) : m = n := by
  have same := (read_text left true).symm.trans (equal ▸ read_text right true)
  exact Except.ok.inj same

end ChallengeDns.Name

namespace ChallengeDns.Key

theorem read_text (k : Key) : (Name.readAbsolute k.name.text >>= ofName) = .ok k := by
  rw [Name.readAbsolute, Name.read_text k.absolute]
  exact ofName_name k

end ChallengeDns.Key
