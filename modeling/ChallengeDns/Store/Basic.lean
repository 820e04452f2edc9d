import ChallengeDns.Store.Path
import ChallengeDns.Store.StateFile
/-!
# The store

Published values in memory, and on disk if there is a state file.  Every change writes the whole
file anew; when that fails the change stays in memory, and the next writing that succeeds catches
up.
-/

namespace ChallengeDns

structure Store where
  records : Records
  /-- Where the state file is, if there is one. -/
  disk : Option Disk

/-- Why a value was not published, or not on disk. -/
inductive PutError where
  | name (e : NameError)
  | store (e : StoreError)

namespace Store

/-- The store that only this server remembers. -/
def memory (r : Records) : Store := ⟨r, none⟩

def saveTo (r : Records) (d : Disk) : Except StoreError Disk :=
  match StateFile.encode r with
  | .error e => .error (.unserialisable e)
  | .ok text =>
    match d.write (Text.utf8 text) with
    | .ok d => .ok d
    | .error f => .error (.unwritable d.path f)

def save (s : Store) : Except StoreError Store :=
  match s.disk with
  | none => .ok s
  | some d => (saveTo s.records d).map fun d => ⟨s.records, some d⟩

/-- The text of a file's content; all line ends become one character. -/
def contentText (content : Bytes) : Except StoreError Text :=
  match Text.decode content with
  | .ok t => .ok t.unifyNewlines
  | .error e => .error (.undecodable e)

/-- Opens the store whose state file is on the disk.  A missing file is created. -/
def openFile (d : Disk) : Attempt Disk StoreError Store :=
  match d.read with
  | .error (.noSuchFile _) =>
    let created : LogEntry := ⟨.info, StateFile.logger,
      "State file " ++ d.path ++ " does not exist, creating empty store"⟩
    match saveTo .empty d with
    | .error e => ⟨.error e, d, [created]⟩
    | .ok d => ⟨.ok ⟨.empty, some d⟩, d, [created]⟩
  -- Any other fault leaves the file as it is.
  | .error f => ⟨.error (.unreadable d.path f), d, []⟩
  | .ok content =>
    match contentText content with
    | .error e => ⟨.error e, d, []⟩
    | .ok text =>
      match StateFile.decode d.path text with
      | (.error e, logs) => ⟨.error e, d, logs⟩
      | (.ok r, logs) =>
        ⟨.ok ⟨r, some d⟩, d, logs ++ [⟨.info, StateFile.logger, "Loaded "
          ++ Text.ofNat r.size ++ " TXT record name(s) from " ++ d.path⟩]⟩

/-- What is reported about a value that has been put into the records. -/
def stored (r : Records) (k : Key) : LogEntry :=
  ⟨.debug, "acmetxt.store.memory", "Stored TXT value for " ++ k.name.text ++ " ("
    ++ Text.ofNat (r.get k).length ++ " held)"⟩

def putKey (s : Store) (k : Key) (v : TxtValue) : Attempt Store StoreError Unit :=
  let r := s.records.put k v
  let logs := [stored r k]
  match save ⟨r, s.disk⟩ with
  | .ok s => ⟨.ok (), s, logs⟩
  | .error e => ⟨.error e, ⟨r, s.disk⟩, logs⟩

def put (s : Store) (name : Name.Given) (v : TxtValue) : Attempt Store PutError Unit :=
  match Key.ofGiven name with
  | .error e => ⟨.error (.name e), s, []⟩
  | .ok k =>
    let a := s.putKey k v
    ⟨a.result.mapError .store, a.state, a.logs⟩

/-- The values of a name, newest first; a name that can have none has none. -/
def get (s : Store) (name : Name.Given) : List TxtValue :=
  match Key.ofGiven name with
  | .ok k => s.records.get k
  | .error _ => []

/-- The store that the configuration asks for; `disk` tells what is at the state file's path. -/
def configured (path : Option Text) (disk : Text → Disk) :
    Attempt (Option Disk) StoreError Store :=
  let report (t : Text) : LogEntry := ⟨.debug, "acmetxt.store", t⟩
  match path with
  | none => ⟨.ok (memory .empty), none, [report "Using in-memory TXT store"]⟩
  | some p =>
    let a := openFile (disk (Path.shown p))
    ⟨a.result, some a.state, report ("Using file-backed TXT store: " ++ p) :: a.logs⟩

end Store

end ChallengeDns
