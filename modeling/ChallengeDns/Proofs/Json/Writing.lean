import Mathlib
import ChallengeDns.Proofs.Json.Machine
import ChallengeDns.Proofs.Json.Members

/-!
# Written JSON is read back

Layouts differ in blanks alone, so a written list of texts or an object of such lists is read back
under each of them.
-/
namespace ChallengeDns.Json

/-! ### Layouts -/

/-- A layout whose separators are read as what they separate with. -/
structure Layout.Regular (l : Layout) : Prop where
  comma : Lexes l.comma [.comma]
  colon : Lexes l.colon [.colon]
  plain : l.comma.IsPlain ∧ l.colon.IsPlain

theorem lexes_comma : Lexes [.scalar ','] [.comma] := .mark rfl (fun _ _ => rfl) rfl

theorem lexes_colon : Lexes [.scalar ':', .scalar ' '] [.colon] :=
  (Lexes.mark (c := .scalar ':') rfl (fun _ _ => rfl) rfl).append (.blank rfl)

theorem Layout.regular_indented : Layout.indented.Regular :=
  ⟨lexes_comma, lexes_colon, by unfold Text.IsPlain; decide, by unfold Text.IsPlain; decide⟩

variable {l : Layout}

theorem lexes_lineBreak (l : Layout) (level : Nat) : Lexes (l.lineBreak level) [] := by
  unfold Layout.lineBreak
  cases l.indent with
  | none => exact .nil
  | some n =>
    refine .blanks (List.forall_mem_cons.mpr ⟨rfl, ?_⟩)
    intro c member
    rw [List.eq_of_mem_replicate member]
    rfl

theorem lexes_join {separator : Text} (comma : Lexes separator [.comma]) {texts : List Text}
    {parts : List (List Token)} (lexes : List.Forall₂ Lexes texts parts) :
    Lexes (Text.join separator texts) (separated parts) := by
  induction lexes with
  | nil => exact .nil
  | @cons text part texts parts first rest ih =>
    cases rest with
    | nil => simpa [Text.join, separated] using first
    | @cons text' part' texts parts second others =>
      have behind := (first.append comma).append ih
      simpa [Text.join, separated] using behind

theorem lexes_bracketed (regular : l.Regular) (level : Nat) {opening closing : Text}
    {first last : Token} (opens : Lexes opening [first]) (closes : Lexes closing [last])
    {texts : List Text} {parts : List (List Token)} (lexes : List.Forall₂ Lexes texts parts) :
    Lexes (bracketed l level opening closing texts) (first :: (separated parts ++ [last])) := by
  have comma := regular.comma.append (lexes_lineBreak l (level + 1))
  unfold bracketed
  split
  · next none =>
    cases lexes with
    | nil => exact opens.append closes
    | cons _ _ => cases none
  · have all := (((opens.append (lexes_lineBreak l (level + 1))).append
      (lexes_join comma lexes)).append (lexes_lineBreak l level)).append closes
    simpa using all

/-! ### Lists of texts -/

def textTokens (ts : List Text) : List Token :=
  .openArray :: (separated (ts.map fun t => [.scalar (.text t)]) ++ [.closeArray])

def textsText (l : Layout) (level : Nat) (ts : List Text) : Text :=
  bracketed l level "[" "]" (ts.map stringText)

theorem valueTexts_ofText (l : Layout) (level : Nat) (ts : List Text) :
    valueTexts l level (ts.map Value.ofText) = .ok (ts.map stringText) := by
  induction ts with
  | nil => rfl
  | cons t ts ih => simp [valueTexts, valueText, scalarText, scalarText?, ih]

theorem valueText_texts (l : Layout) (level : Nat) (ts : List Text) :
    valueText l level (.list (ts.map Value.ofText)) = .ok (textsText l level ts) := by
  rw [valueText, valueTexts_ofText]
  rfl

theorem lexes_texts (regular : l.Regular) (level : Nat) {ts : List Text}
    (joined : ∀ t ∈ ts, t.IsJoined) : Lexes (textsText l level ts) (textTokens ts) := by
  refine lexes_bracketed regular level (.mark rfl (fun _ _ => rfl) rfl)
    (.mark rfl (fun _ _ => rfl) rfl) ?_
  induction ts with
  | nil => exact .nil
  | cons t ts ih =>
    obtain ⟨first, rest⟩ := List.forall_mem_cons.mp joined
    exact .cons (.text first) (ih rest)

theorem denotes_texts (ts : List Text) :
    Denotes (textTokens ts) (.list (ts.map Value.ofText)) 1 := by
  refine .list ?_
  induction ts with
  | nil => exact .nil
  | cons t ts ih => exact .cons (.scalar (.text t) 0) ih

/-! ### Objects of lists of texts -/

def textsEntry (e : Text × List Text) : Scalar × Value :=
  (.text e.1, .list (e.2.map Value.ofText))

theorem textsEntry_injective : Function.Injective textsEntry := by
  rintro ⟨name, ts⟩ ⟨other, us⟩ equal
  have texts : Function.Injective Value.ofText := fun _ _ same => by cases same; rfl
  simp only [textsEntry, Prod.mk.injEq, Scalar.text.injEq, Value.list.injEq,
    texts.list_map.eq_iff] at equal
  rw [equal.1, equal.2]

/-- Entries with different names make up their own mapping. -/
theorem entriesOf_texts {es : List (Text × List Text)} (distinct : (es.map (·.1)).Nodup) :
    Value.entriesOf (es.map textsEntry) = es.map textsEntry := by
  let members := es.map fun e => (e.1, Value.list (e.2.map Value.ofText))
  have entries : es.map textsEntry = members.map memberEntry := by rw [List.map_map]; rfl
  have names : (members.map (·.1)).Nodup := by rwa [List.map_map]
  rw [entries, entriesOf_memberEntry, resolved_of_nodup names]

theorem memberTexts_texts (l : Layout) (level : Nat) (es : List (Text × List Text)) :
    memberTexts l level (es.map textsEntry) =
      .ok (es.map fun e => (e.1, textsText l level e.2)) := by
  induction es with
  | nil => rfl
  | cons e es ih =>
    simp only [List.map_cons, textsEntry, memberTexts, keyText, valueText_texts]
    rw [ih]

/-- The members of an object in the order in which they are written. -/
def arranged (l : Layout) (es : List (Text × List Text)) : List (Text × List Text) :=
  if l.sorted then es.mergeSort fun a b => a.1.notAfter b.1 else es

theorem arranged_perm (l : Layout) (es : List (Text × List Text)) : (arranged l es).Perm es := by
  unfold arranged
  split
  · exact List.mergeSort_perm es _
  · exact .refl es

theorem members_texts (l : Layout) (level : Nat) (es : List (Text × List Text)) :
    members l (es.map fun e => (e.1, textsText l level e.2)) =
      (arranged l es).map fun e => stringText e.1 ++ l.colon ++ textsText l level e.2 := by
  unfold members arranged
  cases l.sorted with
  | false => simp
  | true =>
    have sorted : (es.mergeSort fun a b => a.1.notAfter b.1).map
        (fun e => (e.1, textsText l level e.2)) =
          (es.map fun e => (e.1, textsText l level e.2)).mergeSort fun a b => a.1.notAfter b.1 :=
      List.map_mergeSort fun _ _ _ _ => rfl
    simp only [if_true]
    rw [← sorted, List.map_map]
    rfl

def objectTokens (es : List (Text × List Text)) : List Token :=
  .openObject :: (separated ((es.map fun e => (e.1, textTokens e.2)).map memberTokens) ++
    [.closeObject])

def objectText (l : Layout) (es : List (Text × List Text)) : Text :=
  bracketed l 0 "\x7b" "\x7d"
    ((arranged l es).map fun e => stringText e.1 ++ l.colon ++ textsText l 1 e.2)

theorem write_object (l : Layout) (es : List (Text × List Text)) :
    write l (.mapping (es.map textsEntry)) = .ok (objectText l es) := by
  rw [write, valueText, memberTexts_texts]
  simp only [members_texts]
  rfl

theorem lexes_object (regular : l.Regular) {es : List (Text × List Text)}
    (joined : ∀ e ∈ es, e.1.IsJoined ∧ ∀ t ∈ e.2, t.IsJoined) :
    Lexes (objectText l es) (objectTokens (arranged l es)) := by
  have joined : ∀ e ∈ arranged l es, e.1.IsJoined ∧ ∀ t ∈ e.2, t.IsJoined :=
    fun e member => joined e ((arranged_perm l es).mem_iff.mp member)
  refine lexes_bracketed regular 0 (.mark rfl (fun _ _ => rfl) rfl)
    (.mark rfl (fun _ _ => rfl) rfl) ?_
  -- From here on the order of the members does not matter.
  generalize arranged l es = es at joined
  induction es with
  | nil => exact .nil
  | cons e es ih =>
    obtain ⟨⟨name, texts⟩, rest⟩ := List.forall_mem_cons.mp joined
    have first := ((Lexes.text name).append regular.colon).append (lexes_texts regular 1 texts)
    exact .cons first (ih rest)

theorem denotes_object (es : List (Text × List Text)) :
    Denotes (objectTokens es) (.mapping (Value.entriesOf (es.map textsEntry))) 2 := by
  refine .mapping ?_
  induction es with
  | nil => exact .nil
  | cons e es ih => exact .cons ⟨rfl, denotes_texts e.2⟩ ih

/-- An object of lists of texts under different names is read back with its members in the order in
which they are written. -/
theorem read_object (regular : l.Regular) {es : List (Text × List Text)}
    (joined : ∀ e ∈ es, e.1.IsJoined ∧ ∀ t ∈ e.2, t.IsJoined) (distinct : (es.map (·.1)).Nodup) :
    Json.read (objectText l es) = .ok (.mapping ((arranged l es).map textsEntry)) := by
  -- Without repeated names no member replaces another one.
  have names : ((arranged l es).map (·.1)).Nodup :=
    ((arranged_perm l es).map (·.1)).nodup_iff.mpr distinct
  rw [← entriesOf_texts names]
  refine read_of_denotes (lexes_object regular joined) (denotes_object _) (by decide) ?_
  unfold objectText bracketed
  split <;> nofun

/-! ### Written JSON is plain text -/

theorem visible_unitEscape {n : Nat} (small : n < 65536) : (unitEscape n).IsVisible := by
  have digit (m : Nat) : 0x20 ≤ (Nat.digitChar (m % 16)).toNat ∧
      (Nat.digitChar (m % 16)).toNat < 0x7F := by
    have all : ∀ d : Fin 16, 0x20 ≤ (Nat.digitChar d.val).toNat ∧
        (Nat.digitChar d.val).toNat < 0x7F := by decide
    exact all ⟨m % 16, Nat.mod_lt m (by decide)⟩
  have start : Text.IsVisible "\\u" := by
    unfold Text.IsVisible
    decide
  rw [unitEscape, Text.hex_four small]
  refine start.append (Text.visible_ofChars ?_)
  simp only [List.forall_mem_cons, digit, List.not_mem_nil, false_imp_iff, implies_true, and_self]

theorem visible_stringPoint (c : CodePoint) : (stringPoint c).IsVisible := by
  unfold stringPoint
  -- The seven characters with a short escape.
  iterate 7
    split
    · unfold Text.IsVisible
      decide
  split
  · next visible =>
    simp only [Bool.and_eq_true, decide_eq_true_eq] at visible
    exact List.forall_mem_singleton.mpr visible
  split
  · next small => exact visible_unitEscape small
  · have bound := c.value_lt
    exact (visible_unitEscape (by omega)).append (visible_unitEscape (by omega))

theorem visible_stringText (t : Text) : (stringText t).IsVisible := by
  have quote : Text.IsVisible [.scalar '"'] := by
    unfold Text.IsVisible
    decide
  refine Text.IsVisible.append (s := .scalar '"' :: t.flatMap stringPoint) ?_ quote
  refine List.forall_mem_cons.mpr ⟨quote _ List.mem_cons_self, fun c member => ?_⟩
  obtain ⟨d, -, inside⟩ := List.mem_flatMap.mp member
  exact visible_stringPoint d c inside

theorem plain_append {s t : Text} (left : s.IsPlain) (right : t.IsPlain) : (s ++ t).IsPlain :=
  List.forall_mem_append.mpr ⟨left, right⟩

theorem plain_lineBreak (l : Layout) (level : Nat) : (l.lineBreak level).IsPlain := by
  unfold Layout.lineBreak
  cases l.indent with
  | none => nofun
  | some n =>
    refine List.forall_mem_cons.mpr ⟨by decide, ?_⟩
    intro c member
    rw [List.eq_of_mem_replicate member]
    decide

theorem plain_join {separator : Text} (between : separator.IsPlain) {texts : List Text}
    (parts : ∀ t ∈ texts, t.IsPlain) : (Text.join separator texts).IsPlain := by
  induction texts with
  | nil => nofun
  | cons t texts ih =>
    obtain ⟨first, rest⟩ := List.forall_mem_cons.mp parts
    cases texts with
    | nil => exact first
    | cons u texts => exact plain_append (plain_append first between) (ih rest)

theorem plain_bracketed (regular : l.Regular) (level : Nat) {opening closing : Text}
    (opens : opening.IsPlain) (closes : closing.IsPlain) {texts : List Text}
    (parts : ∀ t ∈ texts, t.IsPlain) : (bracketed l level opening closing texts).IsPlain := by
  have comma := plain_append regular.plain.1 (plain_lineBreak l (level + 1))
  unfold bracketed
  split
  · exact plain_append opens closes
  · exact plain_append (plain_append (plain_append (plain_append opens
      (plain_lineBreak l (level + 1))) (plain_join comma parts)) (plain_lineBreak l level)) closes

theorem plain_objectText (regular : l.Regular) (es : List (Text × List Text)) :
    (objectText l es).IsPlain := by
  have mark (c : Char) (plain : c.toNat < 0x80 ∧ c ≠ '\r') : Text.IsPlain [.scalar c] :=
    List.forall_mem_singleton.mpr ⟨plain.1, fun equal => plain.2 (CodePoint.scalar.inj equal)⟩
  refine plain_bracketed regular 0 (mark _ (by decide)) (mark _ (by decide)) ?_
  refine List.forall_mem_map.mpr fun e _ => ?_
  refine plain_append (plain_append (visible_stringText e.1).plain regular.plain.2) ?_
  refine plain_bracketed regular 1 (mark _ (by decide)) (mark _ (by decide)) ?_
  exact List.forall_mem_map.mpr fun t _ => (visible_stringText t).plain

end ChallengeDns.Json
