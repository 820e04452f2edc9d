import ChallengeDns.Calendar.Basic
import ChallengeDns.Log.Entry
import ChallengeDns.Log.Template
/-!
# Log records

An entry of the log with all that is known about it.  Besides what the caller gives, a record tells
where the work comes from: the query or the request that is being served.  What is being served
counts more than what the caller says, and a request more than a query.
-/

namespace ChallengeDns

/-- A record of the log. -/
structure LogRecord where
  logger : Text
  level : Int
  template : Text
  arguments : List Value
  /-- The microseconds since the start of 1970. -/
  created : Int
  /-- What the caller adds, by name. -/
  extras : List (Text × Value)
  /-- The error that is reported. -/
  exception : Option Text
  /-- How the program came to this place. -/
  stack : Option Text

/-- The query that is being served. -/
structure QueryContext where
  client : Text
  transport : Text
deriving DecidableEq

/-- The request that is being served. -/
structure RequestContext where
  method : Text
  path : Text
  client : Option Text
  requestId : Option Text
deriving DecidableEq

/-- What is being served: queries, the innermost first, and a request. -/
structure LogContext where
  queries : List QueryContext
  request : Option RequestContext

/-- What tells where work comes from. -/
inductive ContextField where
  | requestId
  | client
  | transport
  | method
  | path
deriving DecidableEq

namespace ContextField

/-- All fields in the order in which they are written. -/
def all : List ContextField := [.requestId, .client, .transport, .method, .path]

def name : ContextField → String
  | .requestId => "request_id"
  | .client => "client_ip"
  | .transport => "transport"
  | .method => "method"
  | .path => "path"

/-- What stands in a field about which nothing is known. -/
def unknown : ContextField → Value
  | .requestId => .ofText "-"
  | .client => .ofText "-"
  | .transport => .ofText "-"
  | .method => .null
  | .path => .null

end ContextField

/-- What a query says. -/
def QueryContext.get? (q : QueryContext) : ContextField → Option Text
  | .client => some q.client
  | .transport => some q.transport
  | _ => none

/-- What a request says; an empty text says nothing. -/
def RequestContext.get? (r : RequestContext) : ContextField → Option Text
  | .requestId => r.requestId.filter fun t => !t.isEmpty
  | .client => r.client.filter fun t => !t.isEmpty
  | .transport => some "http"
  | .method => some r.method
  | .path => some r.path

/-- What the work that is being served says. -/
def LogContext.get? (c : LogContext) (f : ContextField) : Option Text :=
  match c.request.bind (·.get? f) with
  | some t => some t
  | none => c.queries.head?.bind (·.get? f)

namespace LogLevel

/-- The levels that have names. -/
def named : List (Int × String) :=
  [(50, "CRITICAL"), (40, "ERROR"), (30, "WARNING"), (20, "INFO"), (10, "DEBUG"), (0, "NOTSET")]

def nameOf (n : Int) : Text :=
  match named.find? (·.1 == n) with
  | some (_, name) => name
  | none => "Level " ++ Text.ofInt n

/-- The number of a word in capitals; two levels have a second word. -/
def ofName? (t : Text) : Option Int :=
  if t == ("FATAL" : Text) then some 50
  else if t == ("WARN" : Text) then some 30
  else (named.find? fun e => Text.ofString e.2 == t).map (·.1)

end LogLevel

/-- The record of an entry at a time. -/
def LogEntry.record (e : LogEntry) (created : Int) : LogRecord where
  logger := e.logger
  level := e.level.number
  template := e.message
  arguments := []
  created := created
  extras := []
  exception := none
  stack := none

/-- A name that a caller may not give to what it adds. -/
structure ReservedName where
  name : Text
deriving DecidableEq

/-- The wording of a reserved name. -/
def ReservedName.message (r : ReservedName) : Text :=
  Text.quoted ("Attempt to overwrite " ++ Text.quoted r.name ++ " in LogRecord")

namespace LogRecord

/-- The names of a record's own parts. -/
def ownNames : List String :=
  ["name", "msg", "args", "levelname", "levelno", "pathname", "filename", "module", "exc_info",
    "exc_text", "stack_info", "lineno", "funcName", "created", "msecs", "relativeCreated", "thread",
    "threadName", "processName", "process", "message", "asctime"]

def isOwn (t : Text) : Bool := ownNames.any fun n => Text.ofString n == t

/-- The first name among the extras that is reserved. -/
def reserved? (r : LogRecord) : Option ReservedName :=
  (r.extras.find? fun e => isOwn e.1).map fun e => ⟨e.1⟩

/-- The message with its values. -/
def message? (r : LogRecord) : Option Text := Template.fill r.template r.arguments

/-- What a record says in a field. -/
def field (r : LogRecord) (c : LogContext) (f : ContextField) : Value :=
  match c.get? f with
  | some t => .ofText t
  | none => ((r.extras.find? fun e => e.1 == Text.ofString f.name).map (·.2)).getD f.unknown

/-- The extras that stand for themselves: no part of the context, and not private. -/
def ownExtras (r : LogRecord) : List (Text × Value) :=
  r.extras.filter fun e =>
    !isOwn e.1 && e.1 != ("taskName" : Text)
      && !ContextField.all.any (fun f => Text.ofString f.name == e.1)
      && e.1.head? != some (.scalar '_')

def exceptionText (kind detail : Text) : Text :=
  if detail.isEmpty then kind else kind ++ ": " ++ detail

end LogRecord

end ChallengeDns
