import Mathlib
import ChallengeDns.Proofs.Json.Depth
import ChallengeDns.Proofs.Store.Decoding

/-!
# Damaged state files

Opening a state file never writes it, whatever it holds.  Most damage is told as an error of the
store.  Two kinds are not: octets that are no UTF-8, and arrays and objects that are nested too
deeply.  Their errors are passed on as they come.
-/
namespace ChallengeDns

/-- An operation fails with an error that is not about keeping the state. -/
def Leaks {α : Type} (result : Except StoreError α) : Prop :=
  ∃ e, result = .error e ∧ e.isPersistence = false

section Leaks

variable {α β : Type}

theorem not_leaks_iff (result : Except StoreError α) :
    ¬Leaks result ↔ (∃ a, result = .ok a) ∨ ∃ e, result = .error e ∧ e.isPersistence = true := by
  cases result with
  | ok a => simp [Leaks]
  | error e => simp [Leaks]

@[simp] theorem leaks_error (e : StoreError) :
    Leaks (.error e : Except StoreError α) ↔ e.isPersistence = false := by
  simp [Leaks]

@[simp] theorem not_leaks_ok (a : α) : ¬Leaks (.ok a) := by
  rintro ⟨e, failed, _⟩
  cases failed

@[simp] theorem leaks_map (f : α → β) (result : Except StoreError α) :
    Leaks (result.map f) ↔ Leaks result := by
  cases result <;> simp [Except.map]

theorem leaks_bind {f : α → Except StoreError β} {result : Except StoreError α} :
    Leaks (result.bind f) ↔ Leaks result ∨ ∃ a, result = .ok a ∧ Leaks (f a) := by
  cases result <;> simp [Except.bind]

end Leaks

namespace StateFile

theorem not_leaks_decodeEntry {path key : Text} {v : Value} : ¬Leaks (decodeEntry path key v) := by
  unfold decodeEntry
  split
  · exact Bool.noConfusion ∘ (leaks_error _).mp
  · split
    · exact not_leaks_ok _
    · exact Bool.noConfusion ∘ (leaks_error _).mp

theorem not_leaks_decodeEntries {path : Text} (es : List (Scalar × Value)) :
    ¬Leaks (decodeEntries path es).1 := by
  induction es with
  | nil => exact not_leaks_ok _
  | cons e es ih =>
    rw [decodeEntries_cons, leaks_bind]
    rintro (first | ⟨l, _, rest⟩)
    · exact not_leaks_decodeEntry first
    · exact ih ((leaks_map _ _).mp rest)

/-- A text is nested too deeply for its reader. -/
def TooDeep (text : Text) : Prop :=
  Json.read text = .error .nestedArray ∨ Json.read text = .error .nestedObject

theorem leaks_decode {path text : Text} : Leaks (decode path text).1 ↔ TooDeep text := by
  unfold decode object TooDeep
  cases read : Json.read text with
  | error e => cases e <;> simp [StoreError.isPersistence]
  | ok v =>
    cases v with
    | mapping es => simp [not_leaks_decodeEntries]
    | _ => simp [StoreError.isPersistence]

end StateFile

namespace Store

/-- The contents of state files whose damage is not told as an error of the store. -/
inductive Escapes (content : Bytes) : Prop
  | undecodable (nothing : ∀ t : Text, t.encode? ≠ some content)
  | tooDeep {t : Text} (encoded : t.encode? = some content)
      (deep : StateFile.TooDeep t.unifyNewlines)

section File

variable {d : Disk} {content : Bytes}

theorem contentText_ok_iff {text : Text} :
    contentText content = .ok text ↔
      ∃ t : Text, t.encode? = some content ∧ t.unifyNewlines = text := by
  simp only [← Text.decode_ok_iff, contentText]
  cases Text.decode content <;> simp

theorem leaks_contentText : Leaks (contentText content) ↔ ∀ t : Text, t.encode? ≠ some content := by
  simp only [ne_eq, ← Text.decode_ok_iff, contentText]
  cases Text.decode content <;> simp [StoreError.isPersistence]

theorem Escapes.cause (escapes : Escapes content) :
    (∀ t : Text, t.encode? ≠ some content) ∨ ∃ t : Text, t.encode? = some content ∧
      Json.maxDepth < Json.openings t.unifyNewlines := by
  cases escapes with
  | undecodable nothing => exact Or.inl nothing
  | @tooDeep t encoded deep =>
    refine Or.inr ⟨t, encoded, ?_⟩
    rcases deep with array | object
    · exact Json.read_nested array (Or.inl rfl)
    · exact Json.read_nested object (Or.inr rfl)

variable (folder : d.folder = .present) (file : d.place = .file content)
include folder file

/-- A file is read, and nothing is written. -/
theorem openFile_file : (openFile d).state = d ∧ (openFile d).result =
    (contentText content).bind fun text => (StateFile.decode d.path text).1.map (⟨·, some d⟩) := by
  have read : d.read = .ok content := by simp only [Disk.read, folder, file]
  unfold openFile
  simp only [read]
  cases contentText content with
  | error e => exact ⟨rfl, rfl⟩
  | ok text =>
    simp only [Except.bind]
    cases StateFile.decode d.path text with
    | mk outcome logs => cases outcome <;> exact ⟨rfl, rfl⟩

theorem leaks_openFile : Leaks (openFile d).result ↔ Escapes content := by
  rw [(openFile_file folder file).2, leaks_bind, leaks_contentText]
  simp only [leaks_map, StateFile.leaks_decode]
  constructor
  · rintro (nothing | ⟨text, read, deep⟩)
    · exact .undecodable nothing
    · obtain ⟨t, encoded, rfl⟩ := contentText_ok_iff.mp read
      exact .tooDeep encoded deep
  · intro escapes
    cases escapes with
    | undecodable nothing => exact Or.inl nothing
    | tooDeep encoded deep => exact Or.inr ⟨_, contentText_ok_iff.mpr ⟨_, encoded, rfl⟩, deep⟩

theorem openFile_ok_iff : (∃ s, (openFile d).result = .ok s) ↔
    ∃ (t : Text) (entries : List (Text × List Text)),
      t.encode? = some content ∧ StateFile.Shaped t.unifyNewlines entries := by
  rw [(openFile_file folder file).2]
  constructor
  · rintro ⟨s, opened⟩
    obtain ⟨text, read, opened⟩ := bind_except_ok.mp opened
    obtain ⟨t, encoded, rfl⟩ := contentText_ok_iff.mp read
    cases decoded : (StateFile.decode d.path t.unifyNewlines).1 with
    | error e => simp [decoded, Except.map] at opened
    | ok r =>
      obtain ⟨entries, shaped⟩ := (StateFile.exists_decode_iff d.path _).mp ⟨r, decoded⟩
      exact ⟨t, entries, encoded, shaped⟩
  · rintro ⟨t, entries, encoded, shaped⟩
    obtain ⟨r, decoded⟩ := (StateFile.exists_decode_iff d.path _).mpr ⟨entries, shaped⟩
    refine ⟨⟨r, some d⟩, bind_except_ok.mpr ⟨_, contentText_ok_iff.mpr ⟨t, encoded, rfl⟩, ?_⟩⟩
    rw [decoded]
    rfl

end File

/-- Whatever a state file holds, opening it leaves it as it is, and so does the store that the
configuration asks for.  It succeeds for the contents that have the shape of a state, and but for
the contents that escape, every other is told as an error of the store.  What escapes is no UTF-8 or
opens more arrays and objects than may be nested. -/
theorem damage_told {d : Disk} {content : Bytes} (folder : d.folder = .present)
    (file : d.place = .file content) :
    (openFile d).state = d ∧
      ((∃ s, (openFile d).result = .ok s) ↔ ∃ (t : Text) (entries : List (Text × List Text)),
        t.encode? = some content ∧ StateFile.Shaped t.unifyNewlines entries) ∧
      (((∃ s, (openFile d).result = .ok s) ∨
        ∃ e, (openFile d).result = .error e ∧ e.isPersistence = true) ↔ ¬Escapes content) ∧
      (Escapes content → (∀ t : Text, t.encode? ≠ some content) ∨
        ∃ t : Text, t.encode? = some content ∧ Json.maxDepth < Json.openings t.unifyNewlines) ∧
      ∀ path disk, disk (Path.shown path) = d →
        (configured (some path) disk).result = (openFile d).result ∧
        (configured (some path) disk).state = some d := by
  obtain ⟨unchanged, _⟩ := openFile_file folder file
  refine ⟨unchanged, openFile_ok_iff folder file, ?_, Escapes.cause, ?_⟩
  · rw [← not_leaks_iff, leaks_openFile folder file]
  · rintro path disk rfl
    exact ⟨rfl, congrArg some unchanged⟩

/-! ### An octet that is no UTF-8, and no entries -/

def sampleDisk (content : Bytes) : Disk := ⟨"state.json", .present, .file content, false⟩

theorem damage_told_sample :
    (∃ s, (openFile (sampleDisk (Text.utf8 "\x7b\x7d"))).result = .ok s) ∧
      (openFile (sampleDisk [0xFF])).state = sampleDisk [0xFF] ∧
      ¬((∃ s, (openFile (sampleDisk [0xFF])).result = .ok s) ∨
        ∃ e, (openFile (sampleDisk [0xFF])).result = .error e ∧ e.isPersistence = true) := by
  have shaped : StateFile.Shaped "\x7b\x7d" [] := ⟨rfl, nofun⟩
  have escapes : Escapes [0xFF] := by
    refine .undecodable fun t encoded => ?_
    have decoded := Text.decode_ok_iff.mpr encoded
    cases decoded
  obtain ⟨_, opened, _⟩ := damage_told (d := sampleDisk (Text.utf8 "\x7b\x7d")) rfl rfl
  obtain ⟨unchanged, _, told, _⟩ := damage_told (d := sampleDisk [0xFF]) rfl rfl
  exact ⟨opened.mpr ⟨"\x7b\x7d", [], rfl, shaped⟩, unchanged, fun good => told.mp good escapes⟩

end Store

end ChallengeDns
