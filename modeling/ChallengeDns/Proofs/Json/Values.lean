import Mathlib
import ChallengeDns.Proofs.Json.Numbers
import ChallengeDns.Proofs.Json.Pairs
import ChallengeDns.Proofs.Json.Writing

/-!
# Values on one line

Every value that JSON has can be written on one line, without characters that cannot be seen, and is
read back; only halves of characters that stand next to each other are joined.
-/
namespace ChallengeDns

/-! ### What JSON has -/

namespace Scalar

/-- A scalar that JSON has: numbers are finite. -/
def IsJson : Scalar → Prop
  | .null => True
  | .bool _ => True
  | .int _ => True
  | .float x => ∃ negative b, Decimal.measure x = (negative, .finite b)
  | .text _ => True
  | _ => False

/-- A scalar as it is read back. -/
def joined : Scalar → Scalar
  | .text t => .text t.joined
  | s => s

end Scalar

namespace Value

mutual

/-- A value that JSON has: keys are texts and numbers are finite. -/
def IsJson : Value → Prop
  | .scalar s => s.IsJson
  | .list vs => AreJson vs
  | .pair _ _ => False
  | .set _ => False
  | .mapping es => EntriesAreJson es

def AreJson : List Value → Prop
  | [] => True
  | v :: vs => IsJson v ∧ AreJson vs

def EntriesAreJson : List (Scalar × Value) → Prop
  | [] => True
  | (k, v) :: es => (∃ t, k = .text t) ∧ IsJson v ∧ EntriesAreJson es

end

mutual

/-- A value as it is read back: with joined texts. -/
def joined : Value → Value
  | .scalar s => .scalar s.joined
  | .list vs => .list (joinedItems vs)
  | .pair a b => .pair a b
  | .set ss => .set ss
  | .mapping es => .mapping (entriesOf (joinedEntries es))

def joinedItems : List Value → List Value
  | [] => []
  | v :: vs => joined v :: joinedItems vs

def joinedEntries : List (Scalar × Value) → List (Scalar × Value)
  | [] => []
  | (k, v) :: es => (k.joined, joined v) :: joinedEntries es

end

end Value

namespace Json

/-! ### Scalars -/

theorem visible_sign (negative : Bool) : (Text.when negative "-").IsVisible := by
  unfold Text.IsVisible
  cases negative <;> decide

theorem visible_numeral {n : Decimal.Numeral} (valid : n.IsValid) : n.text.IsVisible := by
  have fraction : n.fractionText.IsVisible := by
    unfold Decimal.Numeral.fractionText
    split
    · nofun
    · exact List.forall_mem_cons.mpr ⟨by decide, Text.visible_digits valid.fraction⟩
  have exponent : n.exponentText.IsVisible := by
    unfold Decimal.Numeral.exponentText
    split
    · nofun
    · next negative digits written =>
      have all := Text.visible_digits (valid.exponent _ written).2
      refine List.forall_mem_cons.mpr ⟨by decide, List.forall_mem_cons.mpr ⟨?_, all⟩⟩
      cases negative <;> decide
  exact ((Text.visible_digits valid.whole).append fraction).append exponent

/-- What is written for a scalar is read as one token for it. -/
theorem LexesBefore.scalar {s : Scalar} (json : s.IsJson) (shown : s.isShown = true) :
    ∃ text, scalarText? s = some text ∧ text.IsVisible ∧
      LexesBefore text [.scalar s.joined] := by
  have word (text : Text) (visible : text.all fun c => 0x20 ≤ c.value && c.value < 0x7F) :
      text.IsVisible := by
    simpa [Text.IsVisible] using visible
  -- Words and texts are tokens wherever they stand; a number needs an end behind it.
  cases s with
  | null =>
    refine ⟨"null", rfl, word _ rfl, .token rfl rfl fun pos rest _ => ?_⟩
    rfl
  | bool b =>
    cases b with
    | true =>
      refine ⟨"true", rfl, word _ rfl, .token rfl rfl fun pos rest _ => ?_⟩
      rfl
    | false =>
      refine ⟨"false", rfl, word _ rfl, .token rfl rfl fun pos rest _ => ?_⟩
      rfl
  | int n =>
    refine ⟨Text.ofInt n, rfl, ?_, .int shown⟩
    cases n with
    | ofNat n => exact Text.visible_digits fun _ => Text.isDigit_toDigits
    | negSucc n =>
      exact List.forall_mem_cons.mpr ⟨by decide, Text.visible_digits fun _ => Text.isDigit_toDigits⟩
  | float x =>
    obtain ⟨negative, b, measured⟩ := json
    obtain ⟨n, written, valid, -, -⟩ := Decimal.text_finite measured "Infinity" "NaN"
    refine ⟨floatText x, rfl, ?_, .float measured⟩
    rw [floatText, written]
    exact (visible_sign negative).append (visible_numeral valid)
  | text t => exact ⟨stringText t, rfl, visible_stringText t, (Lexes.joined t).before⟩
  | bytes b => cases json
  | date d => cases json
  | dateTime t => cases json

theorem Denotes.mono {ts : List Token} {v : Value} {depth most : Nat} (denotes : Denotes ts v depth)
    (less : depth ≤ most) : Denotes ts v most :=
  ⟨fun frames room => denotes.value frames (by omega),
    fun frames room => denotes.item frames (by omega)⟩

/-! ### Pieces in brackets -/

theorem Lexes.append_before {p q : Text} {ts us : List Token} (first : Lexes p ts)
    (second : LexesBefore q us) : LexesBefore (p ++ q) (ts ++ us) :=
  fun _ _ ends => exists_placed_append (first _ _) (second _ _ ends)

/-- A piece behind which something stands that ends it. -/
theorem LexesBefore.closed {p q : Text} {ts us : List Token} (first : LexesBefore p ts)
    (second : Lexes q us) (ends : ∀ rest, Ends (q ++ rest)) : Lexes (p ++ q) (ts ++ us) :=
  fun _ rest => exists_placed_append (first _ _ (ends rest)) (second _ rest)

theorem lexes_closed_join {closing : Text} {last : Token} (closes : Lexes closing [last])
    (ends : ∀ rest, Ends (closing ++ rest)) {texts : List Text} {parts : List (List Token)}
    (lexes : List.Forall₂ LexesBefore texts parts) :
    Lexes (Text.join ", " texts ++ closing) (separated parts ++ [last]) := by
  have comma : Lexes ", " [.comma] := lexes_comma.append (.blank rfl)
  have follows (rest : Text) : Ends (Text.ofString ", " ++ rest) := by
    rintro c ⟨⟩
    exact Or.inl rfl
  induction lexes with
  | nil => exact closes
  | @cons text part texts parts first rest ih =>
    cases rest with
    | nil => simpa [Text.join, separated] using first.closed closes ends
    | @cons text' part' texts parts second others =>
      have behind := (first.closed comma follows).append ih
      simpa [Text.join, separated] using behind

theorem bracketed_line (level : Nat) (opening closing : Text) (parts : List Text) :
    bracketed .lenientLine level opening closing parts =
      opening ++ (Text.join ", " parts ++ closing) := by
  unfold bracketed
  cases parts with
  | nil => rfl
  | cons part parts => simp [Layout.lenientLine, Layout.lineBreak]

/-! ### Values -/

/-- A value is written on one line, and its tokens stand for the value that is read back. -/
structure Writes (v : Value) (text : Text) (ts : List Token) : Prop where
  written : ∀ level, valueText .lenientLine level v = .ok text
  visible : text.IsVisible
  lexes : LexesBefore text ts
  denotes : Denotes ts v.joined v.depth

/-- The same for the items of a list. -/
structure WritesItems (vs : List Value) (texts : List Text) (parts : List (List Token)) : Prop where
  written : ∀ level, valueTexts .lenientLine level vs = .ok texts
  visible : ∀ t ∈ texts, t.IsVisible
  lexes : List.Forall₂ LexesBefore texts parts
  denotes : List.Forall₂ (fun part v => Denotes part v (Value.itemsDepth vs)) parts
    (Value.joinedItems vs)

/-- A name and its value as they are written are read as these tokens. -/
def LexesMember (e : Text × Text) (part : Text × List Token) : Prop :=
  part.1 = e.1.joined ∧ LexesBefore e.2 part.2

/-- The same for the entries of a mapping. -/
structure WritesEntries (es : List (Scalar × Value)) (texts : List (Text × Text))
    (parts : List (Text × List Token)) : Prop where
  written : ∀ level, memberTexts .lenientLine level es = .ok texts
  visible : ∀ e ∈ texts, e.2.IsVisible
  lexes : List.Forall₂ LexesMember texts parts
  denotes : List.Forall₂ (DenotesEntry (Value.entriesDepth es)) parts (Value.joinedEntries es)

theorem Writes.scalar {s : Scalar} (json : s.IsJson) (shown : s.isShown = true) :
    ∃ text ts, Writes (.scalar s) text ts := by
  obtain ⟨text, written, visible, lexes⟩ := LexesBefore.scalar json shown
  refine ⟨text, _, fun level => ?_, visible, lexes, .scalar _ _⟩
  rw [valueText, scalarText, written]

section Lists

variable {v : Value} {vs : List Value} {text : Text} {ts : List Token} {texts : List Text}
  {parts : List (List Token)}

theorem WritesItems.nil : WritesItems [] [] [] := ⟨fun _ => rfl, nofun, .nil, .nil⟩

theorem WritesItems.cons (first : Writes v text ts) (rest : WritesItems vs texts parts) :
    WritesItems (v :: vs) (text :: texts) (ts :: parts) where
  written level := by rw [valueTexts, first.written, rest.written]
  visible := List.forall_mem_cons.mpr ⟨first.visible, rest.visible⟩
  lexes := .cons first.lexes rest.lexes
  denotes := .cons (first.denotes.mono (le_max_left _ _))
    (rest.denotes.imp fun _ _ denotes => denotes.mono (le_max_right _ _))

theorem lexes_array (lexes : List.Forall₂ LexesBefore texts parts) (level : Nat) :
    Lexes (bracketed .lenientLine level "[" "]" texts)
      (.openArray :: (separated parts ++ [.closeArray])) := by
  have opens : Lexes "[" [.openArray] := .mark rfl (fun _ _ => rfl) rfl
  rw [bracketed_line]
  refine opens.append (lexes_closed_join (.mark rfl (fun _ _ => rfl) rfl) ?_ lexes)
  rintro rest c ⟨⟩
  exact Or.inr (Or.inl rfl)

theorem visible_bracketed (level : Nat) {opening closing : Text} (opens : opening.IsVisible)
    (closes : closing.IsVisible) (parts : ∀ t ∈ texts, t.IsVisible) :
    (bracketed .lenientLine level opening closing texts).IsVisible := by
  have comma : Text.IsVisible ", " := by
    unfold Text.IsVisible
    decide
  rw [bracketed_line]
  exact opens.append ((Text.visible_join comma parts).append closes)

theorem Writes.list (items : WritesItems vs texts parts) :
    Writes (.list vs) (bracketed .lenientLine 0 "[" "]" texts)
      (.openArray :: (separated parts ++ [.closeArray])) where
  written level := by
    rw [valueText, items.written]
    simp only [bracketed_line]
  visible := visible_bracketed 0 (List.forall_mem_singleton.mpr (by decide))
    (List.forall_mem_singleton.mpr (by decide)) items.visible
  lexes := (lexes_array items.lexes 0).before
  denotes := .list items.denotes

end Lists

section Mappings

variable {name : Text} {v : Value} {es : List (Scalar × Value)} {text : Text} {ts : List Token}
  {texts : List (Text × Text)} {parts : List (Text × List Token)}

theorem WritesEntries.nil : WritesEntries [] [] [] := ⟨fun _ => rfl, nofun, .nil, .nil⟩

theorem WritesEntries.cons (first : Writes v text ts) (rest : WritesEntries es texts parts) :
    WritesEntries ((.text name, v) :: es) ((name, text) :: texts) ((name.joined, ts) :: parts) where
  written level := by
    rw [memberTexts, keyText]
    simp only [first.written, rest.written]
  visible := List.forall_mem_cons.mpr ⟨first.visible, rest.visible⟩
  lexes := .cons ⟨rfl, first.lexes⟩ rest.lexes
  denotes := .cons ⟨rfl, first.denotes.mono (le_max_left _ _)⟩
    (rest.denotes.imp fun _ _ denotes => ⟨denotes.1, denotes.2.mono (le_max_right _ _)⟩)

theorem members_line (texts : List (Text × Text)) :
    members .lenientLine texts = texts.map fun e => stringText e.1 ++ ": " ++ e.2 := rfl

theorem lexes_members (lexes : List.Forall₂ LexesMember texts parts) :
    List.Forall₂ LexesBefore (members .lenientLine texts) (parts.map memberTokens) := by
  rw [members_line, List.forall₂_map_left_iff, List.forall₂_map_right_iff]
  refine lexes.imp fun e part related => ?_
  have name := (Lexes.joined e.1).append lexes_colon
  rw [memberTokens, related.1]
  exact name.append_before related.2

theorem lexes_mapping (lexes : List.Forall₂ LexesMember texts parts) (level : Nat) :
    Lexes (bracketed .lenientLine level "\x7b" "\x7d" (members .lenientLine texts))
      (.openObject :: (separated (parts.map memberTokens) ++ [.closeObject])) := by
  have opens : Lexes "\x7b" [.openObject] := .mark rfl (fun _ _ => rfl) rfl
  rw [bracketed_line]
  refine opens.append (lexes_closed_join (.mark rfl (fun _ _ => rfl) rfl) ?_ (lexes_members lexes))
  rintro rest c ⟨⟩
  exact Or.inr (Or.inr rfl)

theorem visible_members (visible : ∀ e ∈ texts, e.2.IsVisible) :
    ∀ t ∈ members .lenientLine texts, t.IsVisible := by
  have colon : Text.IsVisible ": " := by
    unfold Text.IsVisible
    decide
  rw [members_line]
  exact List.forall_mem_map.mpr fun e member =>
    ((visible_stringText e.1).append colon).append (visible e member)

theorem Writes.mapping (entries : WritesEntries es texts parts) :
    Writes (.mapping es)
      (bracketed .lenientLine 0 "\x7b" "\x7d" (members .lenientLine texts))
      (.openObject :: (separated (parts.map memberTokens) ++ [.closeObject])) where
  written level := by
    rw [valueText, entries.written]
    simp only [bracketed_line]
  visible := visible_bracketed 0 (List.forall_mem_singleton.mpr (by decide))
    (List.forall_mem_singleton.mpr (by decide)) (visible_members entries.visible)
  lexes := (lexes_mapping entries.lexes 0).before
  denotes := .mapping entries.denotes

end Mappings

/-! ### All values -/

mutual

/-- Every value that JSON has is written, unless a number in it is too long. -/
theorem exists_writes : ∀ {v : Value}, v.IsJson → v.isShown = true → ∃ text ts, Writes v text ts
  | .scalar _, json, shown => Writes.scalar json shown
  | .list vs, json, shown => by
    obtain ⟨texts, parts, items⟩ := exists_writesItems json shown
    exact ⟨_, _, .list items⟩
  | .mapping es, json, shown => by
    obtain ⟨texts, parts, entries⟩ := exists_writesEntries json shown
    exact ⟨_, _, .mapping entries⟩

theorem exists_writesItems : ∀ {vs : List Value}, Value.AreJson vs → Value.areShown vs = true →
    ∃ texts parts, WritesItems vs texts parts
  | [], _, _ => ⟨[], [], .nil⟩
  | v :: vs, json, shown => by
    rw [Value.areShown, Bool.and_eq_true] at shown
    obtain ⟨text, ts, first⟩ := exists_writes json.1 shown.1
    obtain ⟨texts, parts, rest⟩ := exists_writesItems json.2 shown.2
    exact ⟨_, _, .cons first rest⟩

theorem exists_writesEntries : ∀ {es : List (Scalar × Value)}, Value.EntriesAreJson es →
    Value.entriesShown es = true → ∃ texts parts, WritesEntries es texts parts
  | [], _, _ => ⟨[], [], .nil⟩
  | (k, v) :: es, json, shown => by
    obtain ⟨⟨name, rfl⟩, first, rest⟩ := json
    rw [Value.entriesShown, Bool.and_eq_true, Bool.and_eq_true] at shown
    obtain ⟨text, ts, first⟩ := exists_writes first shown.1.2
    obtain ⟨texts, parts, rest⟩ := exists_writesEntries rest shown.2
    exact ⟨_, _, .cons first rest⟩

end

/-- A mapping that is written on one line is read back with joined texts. -/
theorem read_write {es : List (Scalar × Value)} (json : Value.EntriesAreJson es)
    (shown : Value.entriesShown es = true) (shallow : (Value.mapping es).depth ≤ maxDepth) :
    ∃ text, write .lenientLine (.mapping es) = .ok text ∧ text.IsVisible ∧
      Json.read text = .ok (Value.joined (.mapping es)) := by
  obtain ⟨texts, parts, entries⟩ := exists_writesEntries json shown
  have writes := Writes.mapping entries
  refine ⟨_, writes.written 0, writes.visible, ?_⟩
  refine read_of_denotes (lexes_mapping entries.lexes 0) writes.denotes shallow ?_
  rw [bracketed_line]
  nofun

end Json

end ChallengeDns
