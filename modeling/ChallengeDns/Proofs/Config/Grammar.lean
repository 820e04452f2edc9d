import Mathlib
import ChallengeDns.Proofs.Config.Resolution

/-!
# The grammar of references

A reference is a dollar sign and, in braces, the name of a variable, perhaps with `:-` and a default
behind it.  The name goes on to the first brace or colon and the default to the last brace, so a
text is a reference in at most one way.  A line end behind the last brace is taken for part of the
reference.  That and names without octets are all that sets resolution apart from the grammar.
-/
namespace ChallengeDns

theorem Environment.get?_error_iff (env : Environment) {name : Text} :
    (∃ e, env.get? name = .error e) ↔ Text.encodeKept? name = none := by
  unfold get?
  cases Text.encodeKept? name <;> simp

namespace Reference

variable {env : Environment} {place : Scalar} {t : Text} {r : Reference}

/-! ### How references are written -/

/-- The code point that ends a line. -/
def lineEnd : CodePoint := .scalar '\n'

/-- A default as it stands behind a name. -/
def defaultText : Option Text → Text
  | none => []
  | some fallback => .scalar ':' :: .scalar '-' :: fallback

/-- A reference as it is written. -/
def text (r : Reference) : Text :=
  .scalar '$' :: openBrace :: (r.variableName ++ (defaultText r.default ++ [closeBrace]))

/-- The code points of a name; what comes behind the name is none of them. -/
def isNamePart (c : CodePoint) : Bool := c ≠ closeBrace ∧ c ≠ .scalar ':'

/-- The name of the variable is one that can be written. -/
structure IsNamed (r : Reference) : Prop where
  nonempty : r.variableName ≠ []
  parts : ∀ c ∈ r.variableName, c ≠ closeBrace ∧ c ≠ .scalar ':'

theorem isNamePart_iff {c : CodePoint} :
    isNamePart c = true ↔ c ≠ closeBrace ∧ c ≠ .scalar ':' := decide_eq_true_iff

theorem text_append (r : Reference) (more : Text) : r.text ++ more =
    .scalar '$' :: openBrace ::
      (r.variableName ++ (defaultText r.default ++ closeBrace :: more)) := by
  simp [text]

theorem getLast?_text (r : Reference) : r.text.getLast? = some closeBrace := by
  have last : r.text =
      (.scalar '$' :: openBrace :: (r.variableName ++ defaultText r.default)) ++ [closeBrace] := by
    simp [text]
  rw [last, List.getLast?_concat]

theorem text_ne_lined (r r' : Reference) : r.text ≠ r'.text ++ [lineEnd] := by
  intro equal
  -- A reference ends with its brace.
  have last := getLast?_text r
  rw [equal, List.getLast?_concat] at last
  exact absurd last (by decide)

/-! ### How references are read -/

/-- What is behind the name of a variable: the default that is given, if one is. -/
def ending? : Text → Option (Option Text)
  | .scalar ':' :: .scalar '-' :: fallback => (beforeBrace? fallback).map some
  | rest => if beforeBrace? rest = some [] then some none else none

theorem read?_open (rest : Text) :
    read? (.scalar '$' :: openBrace :: rest) =
      if (rest.takeWhile isNamePart).isEmpty then none
      else (ending? (rest.drop (rest.takeWhile isNamePart).length)).map
        (⟨rest.takeWhile isNamePart, ·⟩) := by
  have part : (fun c => decide (c ≠ closeBrace ∧ c ≠ .scalar ':')) = isNamePart := rfl
  rw [read?, if_neg (not_not.mpr rfl), part]
  generalize rest.takeWhile isNamePart = name
  dsimp only
  generalize rest.drop name.length = behind
  refine if_congr Iff.rfl rfl ?_
  -- Both look for `:-` behind the name.
  split
  · rw [ending?, Option.map_map]
    rfl
  · next other =>
    rw [ending?.eq_2 _ other]
    split <;> rfl

theorem exists_open (read : read? t = some r) :
    ∃ rest, t = .scalar '$' :: openBrace :: rest := by
  unfold read? at read
  split at read
  · split at read
    · cases read
    · next brace => exact ⟨_, by rw [not_not.mp brace]⟩
  · cases read

theorem beforeBrace?_eq_some_iff {s : Text} :
    beforeBrace? t = some s ↔ t = s ++ [closeBrace] ∨ t = s ++ [closeBrace, lineEnd] := by
  have reversed (tail : Text) : t = s ++ tail ↔ t.reverse = tail.reverse ++ s.reverse := by
    rw [← List.reverse_append, List.reverse_inj]
  have apart : CodePoint.scalar '\n' ≠ closeBrace := by decide
  -- From the back, the brace comes first, or it comes behind a line end.
  unfold beforeBrace?
  rw [reversed, reversed]
  cases t.reverse with
  | nil => simp
  | cons c back =>
    by_cases brace : c = closeBrace
    · simp [brace, lineEnd, List.reverse_eq_iff, apart.symm]
    · by_cases line : c = .scalar '\n'
      · cases back with
        | nil => simp [lineEnd, line, apart]
        | cons d back =>
          by_cases brace' : d = closeBrace <;>
            simp [lineEnd, line, List.reverse_eq_iff, apart, brace']
      · simp [brace, line, lineEnd]

theorem ending?_eq_some_iff {d : Option Text} : ending? t = some d ↔
    t = defaultText d ++ [closeBrace] ∨ t = defaultText d ++ [closeBrace, lineEnd] := by
  have apart : CodePoint.scalar ':' ≠ closeBrace := by decide
  unfold ending?
  split
  · next fallback =>
    cases d with
    | none => simp [defaultText, apart]
    | some d => simp [defaultText, beforeBrace?_eq_some_iff]
  · next other =>
    cases d with
    | none =>
      have bare := @beforeBrace?_eq_some_iff t []
      rw [defaultText, ← bare]
      simp
    | some d =>
      refine iff_of_false (by simp) ?_
      rintro (rfl | rfl) <;> exact other _ rfl

theorem takeWhile_name (named : r.IsNamed) (d : Option Text) (more : Text) :
    (r.variableName ++ (defaultText d ++ closeBrace :: more)).takeWhile isNamePart =
      r.variableName := by
  rw [List.takeWhile_append_of_pos fun c member => isNamePart_iff.mpr (named.parts c member)]
  -- A colon or the brace is next, and neither belongs to a name.
  cases d <;> simp [defaultText, isNamePart]

theorem read?_written (named : r.IsNamed) {more : Text} (ended : more = [] ∨ more = [lineEnd]) :
    read? (r.text ++ more) = some r := by
  have behind : ending? (defaultText r.default ++ closeBrace :: more) = some r.default := by
    rw [ending?_eq_some_iff]
    rcases ended with rfl | rfl
    · exact Or.inl rfl
    · exact Or.inr rfl
  rw [text_append, read?_open, takeWhile_name named, List.drop_left, behind]
  simp [named.nonempty]

/-- A text is a reference as it is written, or one with a line end behind it. -/
def Refers (t : Text) (r : Reference) : Prop :=
  r.IsNamed ∧ (t = r.text ∨ t = r.text ++ [lineEnd])

/-- Reading accepts exactly the texts that are references. -/
theorem read?_eq_some_iff : read? t = some r ↔ Refers t r := by
  constructor
  · intro read
    obtain ⟨rest, rfl⟩ := exists_open read
    rw [read?_open] at read
    split at read
    · cases read
    next nonempty =>
    obtain ⟨d, ended, rfl⟩ := Option.map_eq_some_iff.mp read
    -- The name is as long as it can be, and what ends it is read at once.
    have front : rest.takeWhile isNamePart <+: rest := List.takeWhile_prefix isNamePart
    have whole := List.prefix_iff_eq_append.mp front
    refine ⟨⟨by simpa using nonempty, fun c member => ?_⟩, ?_⟩
    · exact isNamePart_iff.mp (List.mem_takeWhile_imp member)
    · rcases ending?_eq_some_iff.mp ended with last | last <;> rw [last] at whole
      · left
        rw [text, whole]
      · right
        rw [text_append, whole]
  · rintro ⟨named, rfl | rfl⟩
    · rw [← List.append_nil r.text]
      exact read?_written named (Or.inl rfl)
    · exact read?_written named (Or.inr rfl)

theorem read?_eq_none_iff : read? t = none ↔ ∀ r, ¬Refers t r := by
  rw [Option.eq_none_iff_forall_ne_some]
  exact forall_congr' fun r => not_congr read?_eq_some_iff

theorem Refers.unique {r' : Reference} (refers : Refers t r) (refers' : Refers t r') : r = r' :=
  Option.some.inj ((read?_eq_some_iff.mpr refers).symm.trans (read?_eq_some_iff.mpr refers'))

theorem Refers.default_ne (refers : Refers t r) : r.default ≠ some t := by
  intro given
  -- A default is shorter than the text that it stands in.
  have size : r.text.length ≤ t.length := by
    rcases refers.2 with rfl | rfl <;> simp
  simp only [text, given, defaultText, List.length_cons, List.length_append,
    List.length_nil] at size
  omega

/-! ### What references stand for -/

theorem resolveText_plain (plain : ∀ r, ¬Refers t r) : resolveText env place t = .ok t := by
  rw [resolveText, read?_eq_none_iff.mpr plain]

theorem exists_refers_of_error {e : Error} (wrong : resolveText env place t = .error e) :
    ∃ r, Refers t r := by
  obtain ⟨r, refers, -⟩ := resolveText_error wrong
  exact ⟨r, read?_eq_some_iff.mp refers⟩

theorem resolveText_lined (named : r.IsNamed) :
    resolveText env place (r.text ++ [lineEnd]) = resolveText env place r.text := by
  unfold resolveText
  rw [read?_eq_some_iff.mpr ⟨named, Or.inr rfl⟩, read?_eq_some_iff.mpr ⟨named, Or.inl rfl⟩]

/-- What the grammar makes of a reference: the value of the variable, which may be empty, or the
default if the variable is not set.  Without a default that is an error, which names the variable
and the place. -/
inductive Resolves (env : Environment) (place : Scalar) (r : Reference) : Except Error Text → Prop
  | set {value : Text} (found : env.get? r.variableName = .ok (some value)) :
      Resolves env place r (.ok value)
  | default {value : Text} (unset : env.get? r.variableName = .ok none)
      (given : r.default = some value) : Resolves env place r (.ok value)
  | missing (unset : env.get? r.variableName = .ok none) (bare : r.default = none) :
      Resolves env place r (.error (.unresolved ⟨r.variableName, place.plain⟩))

/-- What the grammar makes of a text: what is no reference stands for itself. -/
inductive Prescribed (env : Environment) (place : Scalar) (t : Text) : Except Error Text → Prop
  | plain (other : ∀ r : Reference, r.IsNamed → t ≠ r.text) : Prescribed env place t (.ok t)
  | reference {r : Reference} {out : Except Error Text} (named : r.IsNamed) (written : t = r.text)
      (resolves : Resolves env place r out) : Prescribed env place t out

theorem Resolves.encodable {out : Except Error Text} (resolves : Resolves env place r out) :
    Text.encodeKept? r.variableName ≠ none := by
  rw [ne_eq, ← Environment.get?_error_iff env]
  rintro ⟨e, wrong⟩
  cases resolves <;> simp_all

theorem prescribed_plain_iff {out : Except Error Text}
    (other : ∀ r : Reference, r.IsNamed → t ≠ r.text) :
    Prescribed env place t out ↔ out = .ok t := by
  constructor
  · rintro (_ | ⟨named, written, -⟩)
    · rfl
    · exact absurd written (other _ named)
  · rintro rfl
    exact .plain other

/-- A reference is left as it is only if that is the value of its variable. -/
theorem resolveText_same_iff (refers : Refers t r) :
    resolveText env place t = .ok t ↔ env.get? r.variableName = .ok (some t) := by
  rw [resolveText, read?_eq_some_iff.mpr refers]
  dsimp only
  cases env.get? r.variableName with
  | error e => simp
  | ok value =>
    cases value with
    | some value => simp
    | none =>
      cases given : r.default with
      | some fallback =>
        have other : fallback ≠ t := fun same => refers.default_ne (same ▸ given)
        simp [other]
      | none =>
        dsimp only
        split <;> simp

theorem exists_changed_iff :
    (∃ env', resolveText env' place t ≠ .ok t) ↔ ∃ r, Refers t r := by
  constructor
  · rintro ⟨env', changed⟩
    by_contra none
    exact changed (resolveText_plain (not_exists.mp none))
  · rintro ⟨r, refers⟩
    -- Where nothing is set, a reference becomes its default or an error.
    refine ⟨[], fun same => ?_⟩
    have found := (resolveText_same_iff refers).mp same
    unfold Environment.get? at found
    split at found <;> cases found

section Shown

variable (shown : place.isShown = true)
include shown

theorem resolveText_cases (env : Environment) (refers : Refers t r) :
    Resolves env place r (resolveText env place t) ∨
      ∃ e, env.get? r.variableName = .error e ∧
        resolveText env place t = .error (.fault (.unencodable e)) := by
  rw [resolveText, read?_eq_some_iff.mpr refers]
  dsimp only
  cases found : env.get? r.variableName with
  | error e => exact Or.inr ⟨e, rfl, rfl⟩
  | ok value =>
    left
    cases value with
    | some value => exact .set found
    | none =>
      cases given : r.default with
      | some fallback => exact .default found given
      | none =>
        dsimp only
        rw [if_pos shown]
        exact .missing found given

/-- A reference is resolved as the grammar says if its name can be looked up. -/
theorem prescribed_text_iff (named : r.IsNamed) :
    Prescribed env place r.text (resolveText env place r.text) ↔
      Text.encodeKept? r.variableName ≠ none := by
  rcases resolveText_cases shown env ⟨named, Or.inl rfl⟩ with resolves | ⟨e, bad, wrong⟩
  · exact iff_of_true (.reference named rfl resolves) resolves.encodable
  · refine iff_of_false ?_ (not_not.mpr ((Environment.get?_error_iff env).mp ⟨e, bad⟩))
    rw [wrong]
    rintro (_ | ⟨-, -, ⟨⟩⟩)

theorem fault_iff : (∃ f, resolveText env place t = .error (.fault f)) ↔
    ∃ r, Refers t r ∧ Text.encodeKept? r.variableName = none := by
  constructor
  · rintro ⟨f, wrong⟩
    obtain ⟨r, refers⟩ := exists_refers_of_error wrong
    rcases resolveText_cases shown env refers with resolves | ⟨e, bad, -⟩
    · rw [wrong] at resolves
      cases resolves
    · exact ⟨r, refers, (Environment.get?_error_iff env).mp ⟨e, bad⟩⟩
  · rintro ⟨r, refers, nothing⟩
    rcases resolveText_cases shown env refers with resolves | ⟨e, -, wrong⟩
    · exact absurd nothing resolves.encodable
    · exact ⟨_, wrong⟩

theorem unresolved_iff {u : Unresolved} : resolveText env place t = .error (.unresolved u) ↔
    Refers t ⟨u.variableName, none⟩ ∧ env.get? u.variableName = .ok none ∧
      u.place = place.plain := by
  constructor
  · intro wrong
    obtain ⟨r, refers⟩ := exists_refers_of_error wrong
    rcases resolveText_cases shown env refers with resolves | ⟨e, -, other⟩
    · rw [wrong] at resolves
      cases resolves with
      | missing unset bare =>
        obtain ⟨name, fallback⟩ := r
        cases bare
        exact ⟨refers, unset, rfl⟩
    · cases wrong.symm.trans other
  · rintro ⟨refers, unset, here⟩
    obtain ⟨name, where'⟩ := u
    cases here
    exact resolveText_missing (read?_eq_some_iff.mpr refers) unset shown

/-- The grammar of references.  A text is a reference in one way at most.  Texts are treated as
references if they are one as it is written, or one and a line end, which is dropped.  Resolution
does what the grammar says, but for a reference whose name cannot be looked up, and for one with a
line end behind it unless its variable has that text as its value.  A missing variable is told only
of references without a default. -/
theorem resolveText_grammar (env : Environment) (t : Text) :
    (∀ r r' : Reference, r.IsNamed → r'.IsNamed → t = r.text → t = r'.text → r = r') ∧
    ((∃ env', resolveText env' place t ≠ .ok t) ↔ ∃ r, Refers t r) ∧
    (∀ r : Reference, r.IsNamed → t = r.text ++ [lineEnd] →
      resolveText env place t = resolveText env place r.text) ∧
    (Prescribed env place t (resolveText env place t) ↔
      (∀ r : Reference, r.IsNamed → t = r.text → Text.encodeKept? r.variableName ≠ none) ∧
      ∀ r : Reference, r.IsNamed → t = r.text ++ [lineEnd] →
        env.get? r.variableName = .ok (some t)) ∧
    (∀ u, resolveText env place t = .error (.unresolved u) ↔
      Refers t ⟨u.variableName, none⟩ ∧ env.get? u.variableName = .ok none ∧
        u.place = place.plain) ∧
    ((∃ f, resolveText env place t = .error (.fault f)) ↔
      ∃ r, Refers t r ∧ Text.encodeKept? r.variableName = none) := by
  refine ⟨?_, exists_changed_iff, ?_, ?_, fun u => unresolved_iff shown, fault_iff shown⟩
  · intro r r' named named' written written'
    exact Refers.unique ⟨named, Or.inl written⟩ ⟨named', Or.inl written'⟩
  · rintro r named rfl
    exact resolveText_lined named
  · -- By the grammar the text is a reference, or it stands for itself.
    by_cases written : ∃ r : Reference, r.IsNamed ∧ t = r.text
    · obtain ⟨r, named, rfl⟩ := written
      rw [prescribed_text_iff shown named]
      constructor
      · intro encodable
        refine ⟨fun r' named' same => ?_, fun r' _ same => absurd same (text_ne_lined r r')⟩
        rwa [← Refers.unique ⟨named, Or.inl rfl⟩ ⟨named', Or.inl same⟩]
      · exact fun conditions => conditions.1 r named rfl
    · have other : ∀ r : Reference, r.IsNamed → t ≠ r.text :=
        fun r named same => written ⟨r, named, same⟩
      rw [prescribed_plain_iff other]
      constructor
      · intro same
        refine ⟨fun r named here => absurd here (other r named), fun r named lined => ?_⟩
        exact (resolveText_same_iff ⟨named, Or.inr lined⟩).mp same
      · rintro ⟨-, lines⟩
        -- Only a reference in front of a line end can break the grammar here.
        by_cases lined : ∃ r : Reference, r.IsNamed ∧ t = r.text ++ [lineEnd]
        · obtain ⟨r, named, lined⟩ := lined
          exact (resolveText_same_iff ⟨named, Or.inr lined⟩).mpr (lines r named lined)
        · refine resolveText_plain fun r refers => ?_
          rcases refers.2 with here | behind
          · exact other r refers.1 here
          · exact lined ⟨r, refers.1, behind⟩

end Shown

/-- The default of this reference is a text that looks like one. -/
def nestedReference : Reference := ⟨"STATE", some "$\x7bHOME\x7d"⟩

/-- An empty value is a value; behind the reference a line end is lost. -/
theorem resolveText_grammar_sample :
    let env : Environment := [("STATE", [])]
    let place : Scalar := .text "store.state_path"
    let lined := nestedReference.text ++ [lineEnd]
    place.isShown = true ∧
      Prescribed env place nestedReference.text (.ok []) ∧
      resolveText env place lined = .ok [] ∧ ¬Prescribed env place lined (.ok []) := by
  intro env place lined
  have shown : place.isShown = true := rfl
  have named : nestedReference.IsNamed := ⟨by decide, by decide⟩
  have empty : resolveText env place nestedReference.text = .ok [] := by decide
  obtain ⟨unique, -, -, written, -⟩ := resolveText_grammar shown env nestedReference.text
  obtain ⟨-, -, dropped, behind, -⟩ := resolveText_grammar shown env lined
  have same : resolveText env place lined = .ok [] :=
    (dropped nestedReference named rfl).trans empty
  rw [empty] at written
  rw [same] at behind
  refine ⟨shown, written.mpr ⟨fun r other here => ?_, fun r _ here => ?_⟩, same, fun kept => ?_⟩
  · rw [← unique nestedReference r named other rfl here]
    decide
  · exact absurd here (text_ne_lined _ r)
  · have found := (behind.mp kept).2 nestedReference named rfl
    revert found
    decide

end Reference

end ChallengeDns
