import Mathlib
import ChallengeDns.Proofs.Store.StateFile

/-!
# Restarts go unnoticed

A store over a state file can be thrown away and built anew from the file at any point.  As long as
every change gets to the disk, nobody can tell it from a store in memory that was there all along.
-/
namespace ChallengeDns

namespace Store

/-- What happens to a store: a value is published, or the store is built anew. -/
inductive Event where
  | put (name : Name.Given) (value : List Char)
  | restart

/-- The store built anew from its state file; a store in memory stays as it is. -/
def reopen (s : Store) : Except StoreError Store :=
  match s.disk with
  | none => .ok s
  | some d => (openFile d).result

/-- Publishes a value of scalar values. -/
def putChars (s : Store) (name : Name.Given) (value : List Char) : Attempt Store PutError Unit :=
  s.put name (.text (.ofChars value))

/-- The store behind some events. -/
def replay (s : Store) : List Event → Except StoreError Store
  | [] => .ok s
  | .put name value :: events => replay (s.putChars name value).state events
  | .restart :: events =>
    match s.reopen with
    | .error e => .error e
    | .ok t => replay t events

/-- Whether a change did not get to the disk. -/
def isUnsaved : Except PutError Unit → Bool
  | .error (.store _) => true
  | _ => false

/-- Whether every change of a run gets to the disk. -/
def savesAll (s : Store) : List Event → Bool
  | [] => true
  | .put name value :: events =>
    let a := s.putChars name value
    !isUnsaved a.result && savesAll a.state events
  | .restart :: events =>
    match s.reopen with
    | .error _ => true
    | .ok t => savesAll t events

/-- The store behind some events if nobody builds it anew. -/
def undisturbed (s : Store) : List Event → Store
  | [] => s
  | .put name value :: events => undisturbed (s.putChars name value).state events
  | .restart :: events => undisturbed s events

/-- A store whose state file gives its records back, beside other records that look up alike. -/
structure Mirrors (s : Store) (r : Records) : Prop where
  kept : s.records.AreKept
  alike : s.records.lookup = r.lookup
  restored : ∃ d, s.disk = some d ∧ ∃ r', (openFile d).result = .ok ⟨r', some d⟩ ∧
    r'.lookup = s.records.lookup

/-! ### Opening -/

theorem openFile_of_saveTo {r : Records} (kept : r.AreKept) {d d' : Disk}
    (saved : saveTo r d = .ok d') :
    ∃ r', (openFile d').result = .ok ⟨r', some d'⟩ ∧ r'.lookup = r.lookup := by
  obtain ⟨text, encoded, plain, decodes⟩ := StateFile.decode_encode kept
  obtain ⟨text', encoded', written⟩ := (saveTo_ok_iff r d d').mp saved
  rw [encoded, Except.ok.injEq] at encoded'
  subst encoded'
  obtain ⟨present, _, _, rfl⟩ := (Disk.write_ok_iff d d' _).mp written
  obtain ⟨r', decoded, alike⟩ := decodes d.path
  refine ⟨r', ?_, alike⟩
  have content : Disk.read { d with place := .file (Text.utf8 text) } = .ok (Text.utf8 text) := by
    simp only [Disk.read, present]
  unfold openFile
  simp only [content, contentText_plain plain]
  cases result : StateFile.decode d.path text with
  | mk outcome logs =>
    rw [result] at decoded
    cases decoded
    rfl

theorem mirrors_of_openFile {d : Disk} {s : Store} (opened : (openFile d).result = .ok s) :
    s.Mirrors s.records := by
  have again := opened
  unfold openFile at opened
  split at opened
  · cases saved : saveTo .empty d with
    | error e => simp [saved] at opened
    | ok d' =>
      simp only [saved, Except.ok.injEq] at opened
      subst opened
      -- A missing file is written before anything else, and what was written is found again.
      have kept : Records.empty.AreKept := nofun
      exact ⟨kept, rfl, d', rfl, openFile_of_saveTo kept saved⟩
  · cases opened
  · next content _ =>
    cases text : contentText content with
    | error e => simp [text] at opened
    | ok t =>
      cases decoded : StateFile.decode d.path t with
      | mk outcome logs =>
        cases outcome with
        | error e => simp [text, decoded] at opened
        | ok r =>
          simp only [text, decoded, Except.ok.injEq] at opened
          subst opened
          -- A file that was read is not touched, so it is read in the same way again.
          have kept := StateFile.decode_kept (contentText_whole text) (congrArg Prod.fst decoded)
          exact ⟨kept, rfl, d, rfl, r, again, rfl⟩

theorem kept_of_alike {r r' : Records} (kept : r.AreKept) (alike : r'.lookup = r.lookup) :
    r'.AreKept := by
  intro k v member
  rw [Records.get_eq, alike, ← Records.get_eq] at member
  exact kept k v member

theorem Mirrors.reopen {s : Store} {r : Records} (mirrors : s.Mirrors r) :
    ∃ t, s.reopen = .ok t ∧ t.disk = s.disk ∧ t.Mirrors r := by
  obtain ⟨d, disk, r', opened, alike⟩ := mirrors.restored
  refine ⟨⟨r', some d⟩, ?_, disk.symm, ?_⟩
  · unfold Store.reopen
    rw [disk]
    exact opened
  · exact ⟨kept_of_alike mirrors.kept alike, alike.trans mirrors.alike, d, rfl, r', opened, rfl⟩

/-! ### Publishing -/

/-- What a change does to the records, saved or not. -/
theorem put_records (s : Store) (name : Name.Given) (v : TxtValue) :
    (s.put name v).state.records =
      match Key.ofGiven name with
      | .error _ => s.records
      | .ok k => s.records.put k v := by
  unfold put
  cases Key.ofGiven name with
  | error e => rfl
  | ok k =>
    rcases putKey_cases s k v with ⟨_, saved⟩ | ⟨_, _, _, unsaved⟩
    · exact saved.records
    · exact unsaved.records

theorem kept_put {r : Records} (kept : r.AreKept) (k : Key) {v : TxtValue} (new : v.IsKept) :
    (r.put k v).AreKept := by
  intro l w member
  by_cases here : l = k
  · rw [here, Records.get_put] at member
    rcases List.mem_cons.mp (List.mem_of_mem_take member) with rfl | old
    · exact new
    · exact kept k w old
  · rw [Records.get_eq, (Records.pushed_put r k v).others l here, ← Records.get_eq] at member
    exact kept l w member

theorem kept_chars (value : List Char) : TxtValue.IsKept (.text (.ofChars value)) := by
  refine ⟨_, rfl, joined_of_not_isHigh ?_⟩
  exact List.forall_mem_map.mpr fun c _ => CodePoint.not_isHigh_scalar c

/-- A change that gets to the disk keeps the state file up with the records. -/
theorem Mirrors.put {s m : Store} (mirrors : s.Mirrors m.records) (name : Name.Given)
    (value : List Char) (saved : isUnsaved (s.putChars name value).result = false) :
    (s.putChars name value).state.Mirrors (m.putChars name value).state.records := by
  have records := put_records s name (.text (.ofChars value))
  have others := put_records m name (.text (.ofChars value))
  unfold putChars at saved ⊢
  cases key : Key.ofGiven name with
  | error e =>
    -- Without a key nothing is put on either side, and nothing is written.
    have unchanged : (s.put name (.text (.ofChars value))).state = s := by
      unfold Store.put
      rw [key]
    rw [key] at others
    rw [unchanged, others]
    exact mirrors
  | ok k =>
    rw [key] at records others
    have kept : (s.records.put k (.text (.ofChars value))).AreKept :=
      kept_put mirrors.kept k (kept_chars value)
    have alike := Records.put_congr mirrors.alike k (.text (.ofChars value))
    refine ⟨records ▸ kept, by rw [records, others, alike], ?_⟩
    rw [records]
    unfold Store.put at saved ⊢
    simp only [key] at saved ⊢
    rcases putKey_cases s k (.text (.ofChars value)) with ⟨_, done⟩ | ⟨e, failed, _⟩
    -- The new file is the text of the new records; what the old one held does not matter.
    · obtain ⟨d, disk, _⟩ := mirrors.restored
      obtain ⟨d', disk', written⟩ := done.replaced d disk
      exact ⟨d', disk', openFile_of_saveTo kept written⟩
    · rw [failed] at saved
      cases saved

/-! ### Runs -/

/-- What a store mirrors at the beginning of a run it mirrors at the end. -/
theorem Mirrors.replay {s m : Store} (mirrors : s.Mirrors m.records) (events : List Event)
    (saves : s.savesAll events = true) :
    ∃ t, s.replay events = .ok t ∧ t.Mirrors (m.undisturbed events).records := by
  -- By induction on the events.  Both stores are generalized, since a publication changes both of
  -- them; a restart changes `s` alone.
  induction events generalizing s m with
  | nil => exact ⟨s, rfl, mirrors⟩
  | cons event events ih =>
    cases event with
    | put name value =>
      rw [savesAll, Bool.and_eq_true, Bool.not_eq_true'] at saves
      exact ih (mirrors.put name value saves.1) saves.2
    | restart =>
      obtain ⟨t, opened, _, still⟩ := mirrors.reopen
      rw [savesAll, opened] at saves
      obtain ⟨u, done, last⟩ := ih still saves
      exact ⟨u, by rw [Store.replay, opened]; exact done, last⟩

theorem get_of_alike {s t : Store} (alike : s.records.lookup = t.records.lookup)
    (name : Name.Given) : s.get name = t.get name := by
  unfold get
  cases Key.ofGiven name with
  | ok k => simp only [Records.get_eq, alike]
  | error e => rfl

theorem nodup_snapshot (r : Records) : (r.snapshot.map (·.1)).Nodup := by
  have names := r.distinct_names
  rw [List.map_map] at names
  rw [Records.snapshot, List.map_map]
  exact names

/-- A store over a state file that is opened, and built anew at any points of a run whose changes all
get to the disk, is always built with success.  It then answers as a store in memory with the same
initial records that lived through the run: it has the same values under every name, as many names,
and the same snapshot. -/
theorem restart_transparent {d : Disk} {s : Store} (opened : (openFile d).result = .ok s)
    (events : List Event) (saves : s.savesAll events = true) :
    ∃ t, s.replay events = .ok t ∧
      let m := undisturbed (.memory s.records) events
      (∀ name, t.get name = m.get name) ∧ t.records.size = m.records.size ∧
        t.records.snapshot.Perm m.records.snapshot ∧ (t.records.snapshot.map (·.1)).Nodup := by
  -- The store in memory begins with the records that were opened, which the file mirrors.
  have start : s.Mirrors (Store.memory s.records).records := mirrors_of_openFile opened
  obtain ⟨t, done, mirrors⟩ := start.replay events saves
  have perm := Records.perm_of_lookup_eq mirrors.alike
  exact ⟨t, done, get_of_alike mirrors.alike, perm.length_eq, perm.map _,
    nodup_snapshot t.records⟩

/-! ### When changes get to the disk -/

/-- A state file can be written. -/
def Writable (d : Disk) : Prop := d.folder = .present ∧ d.blocked = false ∧ d.place ≠ .folder

theorem saveTo_of_writable {r : Records} (kept : r.AreKept) {d : Disk} (writable : Writable d) :
    ∃ d', saveTo r d = .ok d' ∧ Writable d' := by
  obtain ⟨text, encoded, _⟩ := StateFile.decode_encode kept
  obtain ⟨present, free, name⟩ := writable
  refine ⟨{ d with place := .file (Text.utf8 text) }, ?_, present, free, nofun⟩
  exact (saveTo_ok_iff r d _).mpr
    ⟨text, encoded, (Disk.write_ok_iff d _ _).mpr ⟨present, free, name, rfl⟩⟩

theorem Mirrors.put_writable {s : Store} {r : Records} (mirrors : s.Mirrors r) {d : Disk}
    (disk : s.disk = some d) (writable : Writable d) (name : Name.Given) (value : List Char) :
    isUnsaved (s.putChars name value).result = false ∧
      ∃ d', (s.putChars name value).state.disk = some d' ∧ Writable d' := by
  unfold putChars Store.put
  cases Key.ofGiven name with
  | error e => exact ⟨rfl, d, disk, writable⟩
  | ok k =>
    obtain ⟨d', saved, still⟩ :=
      saveTo_of_writable (kept_put mirrors.kept k (kept_chars value)) writable
    simp only [putKey, save, disk, saved, Except.map, Except.mapError]
    exact ⟨rfl, d', rfl, still⟩

/-- While the state file can be written every change gets to the disk. -/
theorem savesAll_of_writable {s : Store} {r : Records} (mirrors : s.Mirrors r) {d : Disk}
    (disk : s.disk = some d) (writable : Writable d) (events : List Event) :
    s.savesAll events = true := by
  induction events generalizing s r d with
  | nil => rfl
  | cons event events ih =>
    cases event with
    | put name value =>
      obtain ⟨saved, d', disk', still⟩ := mirrors.put_writable disk writable name value
      have next := mirrors.put (m := .memory r) name value saved
      rw [savesAll, saved, ih next disk' still]
      rfl
    | restart =>
      obtain ⟨t, opened, same, still⟩ := mirrors.reopen
      rw [savesAll, opened]
      exact ih still (same.trans disk) writable

/-! ### A quote, a smile and a zero octet -/

/-- Where a state file can be written and none is yet. -/
def emptyDisk : Disk := ⟨"state", .present, .absent, false⟩

/-- Values for the root and for a name with a dot and a zero octet in its label, in two spellings,
with restarts between them. -/
def sampleEvents : List Event :=
  [.put (.name .root) ['\x22', Char.ofNat 0x1F600], .restart, .put (.text "a\\.\\000.") ['x'],
    .put (.text "A\\.\\000.") ['y'], .restart, .put (.text "relative") ['z']]

theorem restart_transparent_sample :
    ∃ s t, (openFile emptyDisk).result = .ok s ∧ s.replay sampleEvents = .ok t ∧
      t.records.size = 2 ∧ t.get (.text "a\\.\\000.") = [.text "y", .text "x"] ∧
      t.get (.name .root) = [.text (.ofChars ['\x22', Char.ofNat 0x1F600])] := by
  let s : Store := ⟨.empty, some { emptyDisk with place := .file (Text.utf8 "\x7b\x7d") }⟩
  have opened : (openFile emptyDisk).result = .ok s := by cbv
  have writable : Writable { emptyDisk with place := .file (Text.utf8 "\x7b\x7d") } := by
    unfold Writable
    decide
  have saves : s.savesAll sampleEvents = true :=
    savesAll_of_writable (mirrors_of_openFile opened) rfl writable sampleEvents
  obtain ⟨t, done, get, size, _⟩ := restart_transparent opened sampleEvents saves
  refine ⟨s, t, opened, done, size.trans (by decide +kernel), (get _).trans rfl, (get _).trans rfl⟩

end Store

end ChallengeDns
