import Mathlib
import ChallengeDns.Log.Line
import ChallengeDns.Proofs.Calendar.Dates
import ChallengeDns.Proofs.Json.Values

/-!
# What a line of the log says

A record is one JSON object on one line.  Its own members cannot be replaced by what a caller adds,
however this is named: an extra has a member of its own only if its name is free.
-/
namespace ChallengeDns

namespace LogRecord

open Json (memberEntry last? resolved)

/-! ### Members by their names -/

/-- The members that every record has. -/
def headRows (r : LogRecord) (time : DateTime) (message : Text) : List (Text × Value) :=
  [("timestamp", .ofText (time.text "T")), ("level", .ofText (LogLevel.nameOf r.level)),
    ("logger", .ofText r.logger), ("message", .ofText message)]

/-- The fields of the context that say something. -/
def contextRows (r : LogRecord) (c : LogContext) : List (Text × Value) :=
  (ContextField.all.filter fun f => isSet (r.field c f)).map fun f =>
    (Text.ofString f.name, r.field c f)

/-- The error and the stack. -/
def tailRows (r : LogRecord) : List (Text × Value) :=
  (r.exception.toList.map fun t => (Text.ofString "exception", Value.ofText t)) ++
    (r.stack.toList.filter (!·.isEmpty)).map fun t => (Text.ofString "stack_info", Value.ofText t)

variable (r : LogRecord) (c : LogContext) (time : DateTime) (message : Text)

/-- The extras with free names. -/
def extraRows : List (Text × Value) :=
  r.ownExtras.filter fun e =>
    decide (e.1 ∉ (r.headRows time message ++ r.contextRows c).map (·.1))

/-- All members; of two with one name the later one counts. -/
def rows : List (Text × Value) :=
  r.headRows time message ++ r.contextRows c ++ r.extraRows c time message ++ r.tailRows

theorem filterMap_context (fields : List ContextField) :
    (fields.filterMap fun f =>
      if isSet (r.field c f) then some (Scalar.text f.name, r.field c f) else none) =
      ((fields.filter fun f => isSet (r.field c f)).map fun f =>
        (Text.ofString f.name, r.field c f)).map memberEntry := by
  induction fields with
  | nil => rfl
  | cons f fields ih =>
    cases set : isSet (r.field c f) <;> simp [set, ih, memberEntry]

theorem lookup_memberEntry_isNone (rows : List (Text × Value)) (name : Text) :
    (Value.lookup (rows.map memberEntry) (.text name)).isNone = decide (name ∉ rows.map (·.1)) := by
  rw [Bool.eq_iff_iff, decide_eq_true_eq]
  simp only [Value.lookup, List.find?_map, Function.comp_def, Option.isNone_map,
    Option.isNone_iff_eq_none, List.find?_eq_none, memberEntry, Json.sameKey_texts,
    decide_eq_true_eq, List.mem_map, not_exists, not_and]

theorem members_eq :
    r.members c time message = Value.entriesOf ((r.rows c time message).map memberEntry) := by
  have head : [(Scalar.text "timestamp", Value.ofText (time.text "T")),
      (.text "level", .ofText (LogLevel.nameOf r.level)), (.text "logger", .ofText r.logger),
      (.text "message", .ofText message)] = (r.headRows time message).map memberEntry := rfl
  have tail : (r.exception.toList.map fun t => (Scalar.text "exception", Value.ofText t)) ++
      ((r.stack.toList.filter (!·.isEmpty)).map fun t =>
        (Scalar.text "stack_info", Value.ofText t)) = r.tailRows.map memberEntry := by
    simp only [tailRows, List.map_append, List.map_map]
    rfl
  unfold members
  dsimp only
  rw [filterMap_context, head, tail, rows, ← contextRows, ← List.map_append]
  -- An extra is left out if its name is taken by then.
  have extras (first : List (Text × Value)) :
      (r.ownExtras.map fun e => (Scalar.text e.1, e.2)).filter
        (fun e => (Value.lookup (first.map memberEntry) e.1).isNone) =
      (r.ownExtras.filter fun e => decide (e.1 ∉ first.map (·.1))).map memberEntry := by
    rw [List.filter_map]
    simp only [Function.comp_def, lookup_memberEntry_isNone]
    rfl
  rw [extras, ← List.map_append, ← List.map_append]
  rfl

/-! ### The names of the members -/

def headNames : List Text := ["timestamp", "level", "logger", "message"]

def tailNames : List Text := ["exception", "stack_info"]

/-- The name of a field of the context. -/
abbrev fieldName (f : ContextField) : Text := Text.ofString f.name

theorem fieldName_injective : Function.Injective fieldName := by
  intro f g
  cases f <;> cases g <;> decide

theorem fieldName_apart (f : ContextField) :
    fieldName f ∉ headNames ∧ fieldName f ∉ tailNames := by
  cases f <;> decide

theorem fieldName_ascii (f : ContextField) : (fieldName f).isAscii = true := by
  cases f <;> decide

variable {r c time message}

theorem mem_contextRows {m : Text × Value} :
    m ∈ r.contextRows c ↔ ∃ f, isSet (r.field c f) = true ∧ (fieldName f, r.field c f) = m := by
  have all (f : ContextField) : f ∈ ContextField.all := by cases f <;> decide
  simp [contextRows, all]

theorem name_mem_tailRows {m : Text × Value} (member : m ∈ r.tailRows) : m.1 ∈ tailNames := by
  rcases List.mem_append.mp member with inside | inside
  · obtain ⟨t, -, rfl⟩ := List.mem_map.mp inside
    exact List.mem_cons_self
  · obtain ⟨t, -, rfl⟩ := List.mem_map.mp inside
    exact List.mem_cons_of_mem _ List.mem_cons_self

theorem mem_extras_of_extraRows {e : Text × Value} (member : e ∈ r.extraRows c time message) :
    e ∈ r.extras :=
  (List.mem_filter.mp (List.mem_filter.mp member).1).1

theorem rows_cases {m : Text × Value} (member : m ∈ r.rows c time message) :
    m ∈ r.headRows time message ∨ m ∈ r.contextRows c ∨ m ∈ r.extras ∨ m ∈ r.tailRows := by
  simp only [rows, List.mem_append] at member
  rcases member with ((head | context) | extra) | tail
  · exact Or.inl head
  · exact Or.inr (Or.inl context)
  · exact Or.inr (Or.inr (Or.inl (mem_extras_of_extraRows extra)))
  · exact Or.inr (Or.inr (Or.inr tail))

theorem last?_rows (name : Text) : last? (r.rows c time message) name =
    (last? r.tailRows name).or ((last? (r.extraRows c time message) name).or
      ((last? (r.contextRows c) name).or (last? (r.headRows time message) name))) := by
  rw [rows, Json.last?_both, Json.last?_both, Json.last?_both]

theorem last?_tailRows {name : Text} (other : name ∉ tailNames) : last? r.tailRows name = none :=
  Json.last?_eq_none.mpr fun _ member equal => other (equal ▸ name_mem_tailRows member)

theorem last?_contextRows {name : Text} (other : ∀ f, fieldName f ≠ name) :
    last? (r.contextRows c) name = none := by
  refine Json.last?_eq_none.mpr fun m member equal => ?_
  obtain ⟨f, -, rfl⟩ := mem_contextRows.mp member
  exact other f equal

theorem last?_extraRows {name : Text}
    (taken : ∀ e ∈ r.ownExtras, e.1 = name → name ∈ headNames) :
    last? (r.extraRows c time message) name = none := by
  refine Json.last?_eq_none.mpr fun e member equal => ?_
  obtain ⟨own, free⟩ := List.mem_filter.mp member
  have inside := taken e own equal
  rw [List.map_append, decide_eq_true_eq, List.mem_append, not_or, equal] at free
  exact free.1 inside

/-- Nothing takes the place of the members that every record has. -/
theorem last?_rows_head {name : Text} (inside : name ∈ headNames) :
    last? (r.rows c time message) name = last? (r.headRows time message) name := by
  have apart : ∀ other ∈ headNames, other ∉ tailNames := by decide
  have context : ∀ f, fieldName f ≠ name := by
    rintro f rfl
    exact (fieldName_apart f).1 inside
  rw [last?_rows, last?_tailRows (apart name inside), last?_extraRows fun _ _ _ => inside,
    last?_contextRows context]
  rfl

/-- A field of the context is a member if it says something. -/
theorem last?_rows_field (f : ContextField) : last? (r.rows c time message) (fieldName f) =
    if isSet (r.field c f) then some (fieldName f, r.field c f) else none := by
  obtain ⟨head, tail⟩ := fieldName_apart f
  have extras : ∀ e ∈ r.ownExtras, e.1 = fieldName f → fieldName f ∈ headNames := by
    intro e own equal
    have field : (ContextField.all.any fun f => Text.ofString f.name == e.1) = true := by
      rw [equal]
      cases f <;> decide
    have free := (List.mem_filter.mp own).2
    simp [field] at free
  -- The name of a field is no name of the head or the tail, and extras do not take it.
  have none : last? (r.headRows time message) (fieldName f) = none := by
    refine Json.last?_eq_none.mpr fun m member equal => head ?_
    rw [← equal]
    exact List.mem_map_of_mem member
  rw [last?_rows, last?_tailRows tail, last?_extraRows extras, none, Option.or_none, Option.none_or,
    Option.none_or]
  split
  · next set =>
    refine Json.last?_of_mem (mem_contextRows.mpr ⟨f, set, rfl⟩) fun m member equal => ?_
    obtain ⟨g, -, rfl⟩ := mem_contextRows.mp member
    rw [fieldName_injective equal]
  · next unset =>
    refine Json.last?_eq_none.mpr fun m member equal => unset ?_
    obtain ⟨g, set, rfl⟩ := mem_contextRows.mp member
    rwa [← fieldName_injective equal]

/-- A name that an extra has for itself: neither one of the record's own parts, nor private, nor
that of another member. -/
structure IsFree (name : Text) : Prop where
  own : isOwn name = false
  task : name ≠ "taskName"
  visible : name.head? ≠ some (.scalar '_')
  field : ∀ f, fieldName f ≠ name
  other : name ∉ headNames
  error : name ≠ "exception"

theorem last?_rows_extra {e : Text × Value} (member : e ∈ r.extras)
    (distinct : (r.extras.map (·.1)).Nodup) (free : IsFree e.1) :
    last? (r.rows c time message) e.1 = some e := by
  have stack : isOwn "stack_info" = true := by decide
  have tail : e.1 ∉ tailNames := by
    simp only [tailNames, List.mem_cons, List.not_mem_nil, or_false, not_or]
    refine ⟨free.error, fun equal => ?_⟩
    rw [← equal, free.own] at stack
    cases stack
  have field : (ContextField.all.any fun f => Text.ofString f.name == e.1) = false := by
    rw [List.any_eq_false]
    intro f _ equal
    exact free.field f (eq_of_beq equal)
  -- The extra passes both filters, and what is appended later has other names.
  have own : e ∈ r.ownExtras := by
    refine List.mem_filter.mpr ⟨member, ?_⟩
    simp [free.own, free.task, free.visible, field]
  have inside : e ∈ r.extraRows c time message := by
    refine List.mem_filter.mpr ⟨own, ?_⟩
    rw [decide_eq_true_eq, List.map_append, List.mem_append, not_or]
    refine ⟨free.other, fun taken => ?_⟩
    obtain ⟨m, context, equal⟩ := List.mem_map.mp taken
    obtain ⟨f, -, rfl⟩ := mem_contextRows.mp context
    exact free.field f equal
  have only : last? (r.extraRows c time message) e.1 = some e := by
    refine Json.last?_of_mem inside fun other extra equal => ?_
    exact List.inj_on_of_nodup_map distinct (mem_extras_of_extraRows extra) member equal
  rw [last?_rows, last?_tailRows tail, only]
  rfl

/-! ### What is read back -/

/-- A member as it is read back. -/
def joinedRow (m : Text × Value) : Text × Value := (m.1.joined, m.2.joined)

theorem joinedEntries_memberEntry (rows : List (Text × Value)) :
    Value.joinedEntries (rows.map memberEntry) = (rows.map joinedRow).map memberEntry := by
  induction rows with
  | nil => rfl
  | cons m rows ih =>
    rw [List.map_cons, memberEntry, Value.joinedEntries, ih]
    rfl

/-- A name has its value as long as no other name is joined to the same one. -/
theorem lookup_joined {rows : List (Text × Value)} {name : Text}
    (only : ∀ m ∈ rows, m.1.joined = name.joined → m.1 = name) :
    Value.lookup (Value.entriesOf (Value.joinedEntries (Value.entriesOf (rows.map memberEntry))))
      (.text name.joined) = (last? rows name).map (·.2.joined) := by
  rw [Json.entriesOf_memberEntry, joinedEntries_memberEntry, Json.lookup_entriesOf]
  -- No other name becomes this one when halves are joined.
  have named {m : Text × Value} (member : m ∈ resolved rows)
      (equal : m.1.joined = name.joined) : last? rows name = some m := by
    have last := Json.mem_resolved.mp member
    rwa [only m (Json.mem_of_last? last) equal] at last
  cases found : last? rows name with
  | none =>
    have none : last? ((resolved rows).map joinedRow) name.joined = none := by
      refine Json.last?_eq_none.mpr (List.forall_mem_map.mpr fun m member equal => ?_)
      cases found.symm.trans (named member equal)
    rw [none]
    rfl
  | some m =>
    have same := Json.last?_name found
    have member : m ∈ resolved rows := Json.mem_resolved.mpr (same ▸ found)
    have last : last? ((resolved rows).map joinedRow) (joinedRow m).1 = some (joinedRow m) := by
      refine Json.last?_of_mem (List.mem_map_of_mem member)
        (List.forall_mem_map.mpr fun other inside equal => ?_)
      have whole : other.1.joined = name.joined := equal.trans (congrArg Text.joined same)
      rw [Option.some.inj (found.symm.trans (named inside whole))]
    have key : (joinedRow m).1 = name.joined := congrArg Text.joined same
    rw [← key, last]
    rfl

/-- The members as they are read back. -/
def readRows (r : LogRecord) (c : LogContext) (time : DateTime) (message : Text) :
    List (Scalar × Value) :=
  Value.entriesOf (Value.joinedEntries (r.members c time message))

theorem lookup_readRows {name : Text} (ascii : name.isAscii = true) :
    Value.lookup (r.readRows c time message) (.text name) =
      (last? (r.rows c time message) name).map (·.2.joined) := by
  have joined := Text.joined_ascii ascii
  have only : ∀ m ∈ r.rows c time message, m.1.joined = name.joined → m.1 = name :=
    fun m _ equal => Text.eq_of_joined_ascii (equal.trans joined) ascii
  rw [readRows, members_eq, ← lookup_joined only, joined]

theorem mem_rows {m : Text × Value} (member : m ∈ r.rows c time message) :
    m.1.isAscii = true ∨ m ∈ r.extras := by
  have names : ∀ name ∈ headNames ++ tailNames, name.isAscii = true := by decide
  rcases rows_cases member with head | context | extra | tail
  · exact Or.inl (names _ (List.mem_append_left _ (List.mem_map_of_mem head)))
  · obtain ⟨f, -, rfl⟩ := mem_contextRows.mp context
    exact Or.inl (fieldName_ascii f)
  · exact Or.inr extra
  · exact Or.inl (names _ (List.mem_append_right _ (name_mem_tailRows tail)))

theorem lookup_readRows_extra {e : Text × Value} (member : e ∈ r.extras)
    (distinct : (r.extras.map fun e => e.1.joined).Nodup) (free : IsFree e.1) :
    Value.lookup (r.readRows c time message) (.text e.1.joined) = some e.2.joined := by
  have only : ∀ m ∈ r.rows c time message, m.1.joined = e.1.joined → m.1 = e.1 := by
    intro m inside equal
    rcases mem_rows inside with ascii | extra
    · exact (Text.eq_of_joined_ascii (equal.symm.trans (Text.joined_ascii ascii)) ascii).symm
    · exact congrArg Prod.fst (List.inj_on_of_nodup_map distinct extra member equal)
  have names : (r.extras.map (·.1)).Nodup := by
    refine List.Nodup.of_map Text.joined ?_
    rwa [List.map_map]
  rw [readRows, members_eq, lookup_joined only, last?_rows_extra member names free]
  rfl

/-! ### What can be written -/

/-- A value that JSON has, without numbers that are too long and not too deep to be a member. -/
structure IsWritable (v : Value) : Prop where
  json : v.IsJson
  shown : v.isShown = true
  shallow : v.depth < Json.maxDepth

theorem writable_text (t : Text) : IsWritable (.ofText t) :=
  ⟨trivial, rfl, (by decide : 0 < Json.maxDepth)⟩

theorem writable_field (extras : ∀ e ∈ r.extras, IsWritable e.2) (f : ContextField) :
    IsWritable (r.field c f) := by
  unfold field
  split
  · exact writable_text _
  · cases found : r.extras.find? fun e => e.1 == Text.ofString f.name with
    | some e => exact extras e (List.mem_of_find?_eq_some found)
    | none => cases f <;> exact ⟨trivial, rfl, by decide⟩

theorem writable_rows (extras : ∀ e ∈ r.extras, IsWritable e.2) :
    ∀ m ∈ r.rows c time message, IsWritable m.2 := by
  intro m member
  rcases rows_cases member with head | context | extra | tail
  · simp only [headRows, List.mem_cons, List.not_mem_nil, or_false] at head
    rcases head with rfl | rfl | rfl | rfl <;> exact writable_text _
  · obtain ⟨f, -, rfl⟩ := mem_contextRows.mp context
    exact writable_field extras f
  · exact extras m extra
  · rcases List.mem_append.mp tail with inside | inside
    · obtain ⟨t, -, rfl⟩ := List.mem_map.mp inside
      exact writable_text t
    · obtain ⟨t, -, rfl⟩ := List.mem_map.mp inside
      exact writable_text t

theorem writable_entries {rows : List (Text × Value)} (all : ∀ m ∈ rows, IsWritable m.2) :
    Value.EntriesAreJson (rows.map memberEntry) ∧
      Value.entriesShown (rows.map memberEntry) = true ∧
      Value.entriesDepth (rows.map memberEntry) < Json.maxDepth := by
  induction rows with
  | nil => exact ⟨trivial, rfl, by decide⟩
  | cons m rows ih =>
    obtain ⟨first, rest⟩ := List.forall_mem_cons.mp all
    obtain ⟨json, shown, shallow⟩ := ih rest
    refine ⟨⟨⟨m.1, rfl⟩, first.json, json⟩, ?_, max_lt first.shallow shallow⟩
    simp only [List.map_cons, memberEntry, Value.entriesShown, Scalar.isShown, first.shown,
      Bool.and_self]
    exact shown

/-- A record is written as an object on one line, and read back. -/
theorem exists_jsonText (extras : ∀ e ∈ r.extras, IsWritable e.2) :
    ∃ text, r.jsonText c time message = some text ∧ text.IsVisible ∧
      Json.read text = .ok (.mapping (r.readRows c time message)) := by
  have all : ∀ m ∈ resolved (r.rows c time message), IsWritable m.2 := by
    intro m member
    have last := Json.mem_resolved.mp member
    exact writable_rows extras m (Json.mem_of_last? last)
  obtain ⟨json, shown, shallow⟩ := writable_entries all
  rw [← Json.entriesOf_memberEntry, ← members_eq] at json shown shallow
  obtain ⟨text, written, visible, read⟩ := Json.read_write json shown shallow
  have possible : ((Value.mapping (r.members c time message)).isShown &&
      decide ((Value.mapping (r.members c time message)).depth ≤ Json.maxDepth)) = true := by
    rw [Bool.and_eq_true, decide_eq_true_eq]
    exact ⟨shown, shallow⟩
  refine ⟨text, ?_, visible, read⟩
  unfold jsonText
  dsimp only
  rw [if_pos possible, written]
  rfl

/-! ### Sources of the context -/

/-- What a record says in a field: the request counts most, then the innermost query, then what the
caller adds, and at last what stands for nothing known. -/
inductive Tells (r : LogRecord) (c : LogContext) (f : ContextField) : Value → Prop where
  | request {q : RequestContext} {t : Text} : c.request = some q → q.get? f = some t →
      Tells r c f (.ofText t)
  | query {q : QueryContext} {qs : List QueryContext} {t : Text} :
      (∀ request ∈ c.request, request.get? f = none) → c.queries = q :: qs → q.get? f = some t →
      Tells r c f (.ofText t)
  | extra {v : Value} : (∀ request ∈ c.request, request.get? f = none) →
      (∀ q ∈ c.queries.head?, q.get? f = none) → (fieldName f, v) ∈ r.extras → Tells r c f v
  | nothing : (∀ request ∈ c.request, request.get? f = none) →
      (∀ q ∈ c.queries.head?, q.get? f = none) → (∀ v, (fieldName f, v) ∉ r.extras) →
      Tells r c f f.unknown

theorem tells_field (r : LogRecord) (c : LogContext) (f : ContextField) :
    r.Tells c f (r.field c f) := by
  unfold field LogContext.get?
  -- The request is asked first, then the innermost query, then the caller.
  cases asked : c.request.bind (·.get? f) with
  | some t =>
    obtain ⟨q, request, told⟩ := Option.bind_eq_some_iff.mp asked
    exact .request request told
  | none =>
    have request : ∀ request ∈ c.request, request.get? f = none := Option.bind_eq_none_iff.mp asked
    cases served : c.queries.head?.bind (·.get? f) with
    | some t =>
      obtain ⟨q, first, told⟩ := Option.bind_eq_some_iff.mp served
      obtain ⟨qs, queries⟩ := List.head?_eq_some_iff.mp first
      exact .query request queries told
    | none =>
      have query : ∀ q ∈ c.queries.head?, q.get? f = none := Option.bind_eq_none_iff.mp served
      dsimp only
      cases found : r.extras.find? fun e => e.1 == Text.ofString f.name with
      | some e =>
        have name : e.1 = fieldName f := eq_of_beq (List.find?_some found :)
        refine .extra request query ?_
        rw [← name]
        exact List.mem_of_find?_eq_some found
      | none =>
        refine .nothing request query fun v member => ?_
        simpa using List.find?_eq_none.mp found _ member

theorem isSet_eq_false_iff {v : Value} : isSet v = false ↔ v = .null ∨ v = .ofText "-" := by
  cases v with
  | scalar s => cases s <;> simp [isSet]
  | _ => simp [isSet]

/-! ### Own members -/

theorem joined_of_whole {t : Text} (whole : t.IsWhole) : t.joined = t := by
  refine Text.joined_of_isJoined (joined_of_not_isHigh fun c member => ?_)
  cases c with
  | scalar c => exact CodePoint.not_isHigh_scalar c
  | surrogate half => cases whole _ member

theorem whole_offsetText (offset : Int) : (DateTime.offsetText offset).IsWhole := by
  have sign : (if offset < 0 then "-" else "+" : Text).IsWhole := by
    split <;> exact Text.whole_ofString _
  simp [DateTime.offsetText, sign]

theorem whole_time (time : DateTime) : (time.text "T").IsWhole := by
  cases known : time.offset with
  | none => simp [DateTime.text, Date.text, DateTime.clockText, known]
  | some offset => simp [DateTime.text, Date.text, DateTime.clockText, known, whole_offsetText]

theorem whole_level (n : Int) : (LogLevel.nameOf n).IsWhole := by
  unfold LogLevel.nameOf
  split
  · exact Text.whole_ofChars _
  · refine Text.whole_append.mpr ⟨Text.whole_ofChars _, ?_⟩
    cases n with
    | ofNat n => exact Text.whole_ofNat n
    | negSucc n => exact List.forall_mem_cons.mpr ⟨rfl, Text.whole_ofNat _⟩

/-- What the object of a record says. -/
structure IsObjectOf (es : List (Scalar × Value)) (r : LogRecord) (c : LogContext) (time : DateTime)
    (message : Text) : Prop where
  timestamp : Value.lookup es (.text "timestamp") = some (.ofText (time.text "T"))
  level : Value.lookup es (.text "level") = some (.ofText (LogLevel.nameOf r.level))
  logger : Value.lookup es (.text "logger") = some (.ofText r.logger.joined)
  message : Value.lookup es (.text "message") = some (.ofText message.joined)
  /-- A field of the context is there unless what counts most in it is nothing or a hyphen. -/
  context : ∀ f, ∃ v, r.Tells c f v ∧
    ((v = .null ∨ v = .ofText "-") ∧ Value.lookup es (.text (fieldName f)) = none ∨
      ¬(v = .null ∨ v = .ofText "-") ∧
        Value.lookup es (.text (fieldName f)) = some v.joined)
  extras : ∀ e ∈ r.extras, IsFree e.1 → Value.lookup es (.text e.1.joined) = some e.2.joined

theorem lookup_head {name t : Text} (inside : name ∈ headNames)
    (row : last? (r.headRows time message) name = some (name, .ofText t)) :
    Value.lookup (r.readRows c time message) (.text name) = some (.ofText t.joined) := by
  have ascii : ∀ name ∈ headNames, name.isAscii = true := by decide
  rw [lookup_readRows (ascii name inside), last?_rows_head inside, row]
  rfl

theorem isObjectOf_readRows (distinct : (r.extras.map fun e => e.1.joined).Nodup) :
    IsObjectOf (r.readRows c time message) r c time message where
  timestamp := by
    rw [← joined_of_whole (whole_time time)]
    exact lookup_head (by decide) rfl
  level := by
    rw [← joined_of_whole (whole_level r.level)]
    exact lookup_head (by decide) rfl
  logger := lookup_head (by decide) rfl
  message := lookup_head (by decide) rfl
  context f := by
    refine ⟨r.field c f, tells_field r c f, ?_⟩
    rw [lookup_readRows (fieldName_ascii f), last?_rows_field, ← isSet_eq_false_iff]
    cases set : isSet (r.field c f) with
    | false => exact Or.inl ⟨rfl, rfl⟩
    | true => exact Or.inr ⟨nofun, rfl⟩
  extras _ member free := lookup_readRows_extra member distinct free

theorem line?_json {text : Text} (dated : DateTime.ofUnix r.created = .ok time)
    (filled : r.message? = some message) (written : r.jsonText c time message = some text) :
    r.line? c .json = some (text ++ "\n") := by
  simp [line?, dated, filled, written, Except.toOption]

/-- A record is one line with one object, which says what the record says, whatever is in its
message and whatever the extras are called. -/
theorem line_unforgeable (dated : DateTime.ofUnix r.created = .ok time)
    (filled : r.message? = some message) (extras : ∀ e ∈ r.extras, IsWritable e.2)
    (distinct : (r.extras.map fun e => e.1.joined).Nodup) :
    ∃ (body : Text) (es : List (Scalar × Value)), r.line? c .json = some (body ++ "\n") ∧
      body.IsVisible ∧ Json.read body = .ok (.mapping es) ∧
        IsObjectOf es r c time message := by
  obtain ⟨body, written, visible, read⟩ := exists_jsonText extras
  exact ⟨body, _, line?_json dated filled written, visible, read, isObjectOf_readRows distinct⟩

/-- A message with a line break, and extras that are called like other members. -/
def sampleRecord : LogRecord where
  logger := "acmetxt.api.auth"
  level := 30
  template := "denied %s"
  arguments := [.ofText "eve\n\"level\": 0"]
  created := 1750000000123456
  extras := [("level", .ofText "DEBUG"), ("client_ip", .ofText "203.0.113.9"),
    ("attempts", .list [.ofInt 1, .mapping [(.text "ok", .scalar (.bool false))]])]
  exception := none
  stack := none

def sampleContext : LogContext := ⟨[⟨"192.0.2.7", "udp"⟩], none⟩

theorem dated_sample : DateTime.ofUnix 1750000000123456 =
    .ok ⟨⟨2025, 6, 15⟩, 15, 6, 40, 123456, some 0⟩ := by
  have june : Date.ofOrdinal 739416 = ⟨2025, 6, 15⟩ :=
    Date.IsValid.ofOrdinal_ordinal (d := ⟨2025, 6, 15⟩) ⟨by decide, by decide, by decide⟩
  exact congrArg (fun date => Except.ok (⟨date, 15, 6, 40, 123456, some 0⟩ : DateTime)) june

theorem line_unforgeable_sample :
    ∃ (body : Text) (es : List (Scalar × Value)),
      sampleRecord.line? sampleContext .json = some (body ++ "\n") ∧ body.IsVisible ∧
      Json.read body = .ok (.mapping es) ∧
      IsObjectOf es sampleRecord sampleContext ⟨⟨2025, 6, 15⟩, 15, 6, 40, 123456, some 0⟩
        "denied eve\n\"level\": 0" := by
  refine line_unforgeable dated_sample rfl ?_ (by decide)
  simp only [sampleRecord, List.forall_mem_cons, List.not_mem_nil, false_imp_iff, implies_true,
    and_true]
  refine ⟨writable_text _, writable_text _, ⟨?_, rfl, by decide⟩⟩
  exact ⟨trivial, ⟨⟨_, rfl⟩, trivial, trivial⟩, trivial⟩

/-- Two halves that a template puts together are read back as one character. -/
theorem line_joins_halves : ∃ (r : LogRecord) (c : LogContext) (message body : Text)
    (es : List (Scalar × Value)), r.extras = [] ∧ r.message? = some message ∧
      r.line? c .json = some (body ++ "\n") ∧ Json.read body = .ok (.mapping es) ∧
      Value.lookup es (.text "message") ≠ some (.ofText message) := by
  let high : CodePoint := .surrogate ⟨0xD83D - 0xD800, by decide⟩
  let low : CodePoint := .surrogate ⟨0xDE00 - 0xD800, by decide⟩
  let record : LogRecord := ⟨"acmetxt", 20, [high, .scalar '%', .scalar 's'], [.ofText [low]],
    1750000000123456, [], none, none⟩
  let context : LogContext := ⟨[], none⟩
  have filled : record.message? = some [high, low] := rfl
  have extras : ∀ e ∈ record.extras, IsWritable e.2 := nofun
  obtain ⟨body, written, -, read⟩ := exists_jsonText extras
  refine ⟨record, context, [high, low], body, _, rfl, filled, line?_json dated_sample filled
    written, read, ?_⟩
  have joined : Text.joined [high, low] = [.scalar (Char.ofNat 0x1F600)] := by decide
  rw [lookup_head (by decide) rfl, joined]
  simp only [ne_eq, Option.some.injEq, Value.scalar.injEq, Scalar.text.injEq]
  decide

end LogRecord

end ChallengeDns
