import ChallengeDns.Json.Reader
import ChallengeDns.Json.Writer
import ChallengeDns.Log.Entry
import ChallengeDns.Store.Disk
import ChallengeDns.Store.Records
/-!
# State files

The form in which records outlive the server: a JSON object with a list of texts, newest first,
under each name.  Names and lines are sorted, so records alone decide the text.  Reading refuses
every other form; names may be written without the final dot and in any case, and lists that are too
long are cut.
-/

namespace ChallengeDns

/-- Why the state could not be read or written. -/
inductive StoreError where
  | unserialisable (e : Json.WriteError)
  | badJson (path : Text) (e : Json.ReadError)
  | notObject (path : Text)
  | notTexts (path key : Text)
  | badName (path key : Text)
  | unreadable (path : Text) (f : DiskFault)
  | unwritable (path : Text) (f : DiskFault)
  /-- The file is no UTF-8 text. -/
  | undecodable (e : Text.Utf8Error)
  /-- Lists or objects are nested too deeply. -/
  | tooDeep (e : Json.ReadError)

def StoreError.message : StoreError → Text
  | .unserialisable e => "cannot serialise TXT store state: " ++ e.message
  | .badJson path e => "state file " ++ path ++ " is not valid JSON: " ++ e.message
  | .notObject path => "state file " ++ path ++ " must contain a JSON object"
  | .notTexts path key =>
    "state file " ++ path ++ ": value for " ++ key.quoted ++ " must be a list of strings"
  | .badName path key => "state file " ++ path ++ ": invalid name " ++ key.quoted
  | .unreadable path f => "cannot read state file " ++ path ++ ": " ++ f.message
  | .unwritable path f => "cannot write state file " ++ path ++ ": " ++ f.message
  | .undecodable e => e.message
  | .tooDeep e => e.message

/-- Whether the state itself could not be kept or found; other errors are passed on. -/
def StoreError.isPersistence : StoreError → Bool
  | .undecodable _ => false
  | .tooDeep _ => false
  | _ => true

namespace StateFile

def logger : Text := "acmetxt.store.file"

def encode (r : Records) : Except Json.WriteError Text :=
  Json.write .indented (.mapping (r.snapshot.map fun e =>
    (.text e.1, .list (e.2.map TxtValue.toValue))))

def texts? (v : Value) : Option (List Text) := v.items?.bind fun items => items.mapM Value.text?

/-- What is reported about a list that is too long. -/
def tooLong (path key : Text) (count : Nat) : LogEntry :=
  ⟨.warning, logger, "State file " ++ path ++ " holds " ++ Text.ofNat count ++ " values for " ++ key
    ++ "; keeping the newest " ++ Text.ofNat History.capacity⟩

def decodeEntry (path : Text) (key : Text) (v : Value) :
    Except StoreError (Key × List TxtValue) :=
  match texts? v with
  | none => .error (.notTexts path key)
  | some ts =>
    match Name.readAbsolute key >>= Key.ofName with
    | .ok k => .ok (k, ts.map TxtValue.text)
    | .error _ => .error (.badName path key)

/-- The names and values of an object's entries, up to the first one that is no such entry, and what
is reported on the way. -/
def decodeEntries (path : Text) :
    List (Scalar × Value) → Except StoreError (List (Key × List TxtValue)) × List LogEntry
  | [] => (.ok [], [])
  | (key, v) :: es =>
    match decodeEntry path key.plain v with
    | .error e => (.error e, [])
    | .ok entry =>
      let report := if History.capacity < entry.2.length
        then [tooLong path key.plain entry.2.length] else []
      let (rest, logs) := decodeEntries path es
      (rest.map (entry :: ·), report ++ logs)

def object (path : Text) (text : Text) : Except StoreError (List (Scalar × Value)) :=
  match Json.read text with
  | .error .nestedArray => .error (.tooDeep .nestedArray)
  | .error .nestedObject => .error (.tooDeep .nestedObject)
  | .error e => .error (.badJson path e)
  | .ok (.mapping es) => .ok es
  | .ok _ => .error (.notObject path)

/-- The records in a state file's text, and what is reported on the way.  For a name that comes
again the last list counts, where the name came first. -/
def decode (path : Text) (text : Text) : Except StoreError Records × List LogEntry :=
  match object path text with
  | .error e => (.error e, [])
  | .ok es =>
    let (entries, logs) := decodeEntries path es
    (entries.map Records.ofLists, logs)

end StateFile

end ChallengeDns
