import ChallengeDns.Api.Request
import ChallengeDns.Api.Response
import ChallengeDns.Json.Encoding
import ChallengeDns.Log.Record
import ChallengeDns.Shutdown.Basic
import ChallengeDns.Text.Upper
/-!
# The update interface

One path tells that the server is alive, one is not provided, and one publishes a value; paths for
files lead nowhere, since there are none.  A request is checked step by step; only an update that
passes all checks, while the server is not shutting down, reaches the store.  Every response carries
the request's identifier, and every request leaves one line in the access log.
-/

namespace ChallengeDns

/-- The paths of the interface. -/
inductive Route where
  | health
  | register
  | update
  | file
deriving DecidableEq

namespace Route

/-- Whether a path is meant for a file. -/
def isFile (path : Text) : Bool :=
  let folder : Text := "/static/"
  let name := path.drop folder.length
  folder.isPrefixOf path && !name.isEmpty && name.head? != some (.scalar '/')

def ofPath? (path : Text) : Option Route :=
  if path == ("/healthcheck" : Text) then some .health
  else if path == ("/register" : Text) then some .register
  else if path == ("/update" : Text) then some .update
  else if isFile path then some .file
  else none

def all : List Route := [.health, .register, .update, .file]

def methods : Route → List Text
  | .health => ["GET", "HEAD", "OPTIONS"]
  | .register => ["OPTIONS", "POST"]
  | .update => ["OPTIONS", "POST"]
  | .file => ["GET", "HEAD", "OPTIONS"]

end Route

namespace Api

/-- The most octets that a body has. -/
def maxBody : Nat := 4096

/-- What is reported about a new interface. -/
def created : List LogEntry :=
  [⟨.debug, "acmetxt.api",
      "Registered API blueprint (" ++ Text.ofNat Route.all.length ++ " URL rules)"⟩,
    ⟨.info, "acmetxt.app.factory", "Flask application created"⟩]

structure UpdateRequest where
  subdomain : Text
  txt : Text

/-- The JSON object in a body. -/
def bodyObject (r : Request) : Except RequestError Value :=
  if !r.isJson then .error (.refused 415 "Content-Type must be application/json")
  else if maxBody < r.body.length then .error (.http .tooLarge none)
  else match Json.readOctets r.body with
    -- Too deep nesting is no syntax error, and nothing expects it.
    | some (.error .nestedArray) => .error .unexpected
    | some (.error .nestedObject) => .error .unexpected
    | some (.ok (.mapping es)) => .ok (.mapping es)
    -- A null is taken for a body that could not be read.
    | some (.ok (.scalar .null)) => .error (.refused 400 "request body is not valid JSON")
    | some (.ok _) => .error (.refused 400 "request body must be a JSON object")
    | _ => .error (.refused 400 "request body is not valid JSON")

def updateRequest (r : Request) : Except RequestError UpdateRequest := do
  let object ← bodyObject r
  match (object.get? "subdomain").bind Value.text?, (object.get? "txt").bind Value.text? with
  | some subdomain, some txt => return ⟨subdomain, txt⟩
  | _, _ => throw (.refused 400 "both 'subdomain' and 'txt' must be strings")

/-- What an update changes: the store and the count of operations. -/
structure State where
  store : Store
  shutdown : Shutdown

/-- Publishes the value that a request asks for. -/
def publish (ac : AccessControl) (st : State) (r : Request) : Attempt State RequestError Text :=
  let refuse (e : RequestError) : Attempt State RequestError Text := ⟨.error e, st, []⟩
  match updateRequest r with
  | .error e => refuse e
  | .ok u =>
    if r.client.isEmpty then refuse (.refused 400 "cannot determine client address")
    else if st.shutdown.shuttingDown then refuse (.refused 503 "server is shutting down")
    else
      let (entered, entering) := st.shutdown.enter "update"
      let a := Gateway.update ac st.store (.ofText r.client) (.text u.subdomain) (.ofText u.txt)
      ⟨a.result.mapError .ofUpdate, ⟨a.state, entered.leave⟩, entering ++ a.logs⟩

/-- What a route does with a request whose method it takes. -/
def serve (ac : AccessControl) (st : State) (r : Request) :
    Route → Attempt State RequestError Response
  | .health => ⟨.ok (.ok "ok" "healthy"), st, []⟩
  | .register => ⟨.error (.domain .notProvided), st, []⟩
  | .update =>
    let a := publish ac st r
    ⟨a.result.map (.ok "txt"), a.state, a.logs⟩
  | .file => ⟨.error (.http .notFound none), st, []⟩

def dispatch (ac : AccessControl) (st : State) (r : Request) :
    Attempt State RequestError Response :=
  match Route.ofPath? r.path with
  | none => ⟨.error (.http .notFound none), st, []⟩
  | some route =>
    if !route.methods.contains r.method then ⟨.error (.http .methodNotAllowed none), st, []⟩
    else if r.method == ("OPTIONS" : Text) then ⟨.ok (.methods route.methods), st, []⟩
    else serve ac st r route

def accessLine (r : Request) (status : Nat) : LogEntry :=
  ⟨if status < 400 then .info else if status < 500 then .warning else .error, "acmetxt.access",
    r.method ++ " " ++ r.path ++ " " ++ Text.ofNat status⟩

/-- The identifier of a request: the client's, or a fresh one. -/
def requestId (r : Request) (fresh : Text) : Text :=
  match r.header? "X-Request-ID" with
  | some id => if id.isEmpty then fresh else id
  | none => fresh

def context (r : Request) (id : Option Text) : RequestContext :=
  ⟨Text.toUpper r.method, r.path, some r.client, id⟩

def headers (r : Request) (fresh : Text) (resp : Response) : List (Text × Text) :=
  let header (name : String) (value : Text) : Text × Text := (name, value)
  [header "Content-Type" resp.contentType]
    ++ (if resp.noStore then [header "Cache-Control" "no-store"] else [])
    ++ (match resp.allow with
      | some methods => [header "Allow" (Text.join ", " methods)]
      | none => [])
    ++ [header "X-Content-Type-Options" "nosniff", header "X-Request-ID" (requestId r fresh)]

/-- The response to a request that has been served, and what is logged about it.  A response to `HEAD`
has no body. -/
def conclude (r : Request) (a : Attempt State RequestError Response) :
    Response × State × List LogEntry :=
  let (resp, reports) := match a.result with
    | .ok resp => (resp, [])
    | .error e => Response.ofError e
  let resp := if r.method == ("HEAD" : Text) then { resp with body := [] } else resp
  (resp, a.state, a.logs ++ reports ++ [accessLine r resp.status])

def handle (ac : AccessControl) (st : State) (r : Request) : Response × State × List LogEntry :=
  let r := { r with method := Text.toUpper r.method }
  conclude r (dispatch ac st r)

end Api

end ChallengeDns
