import Mathlib
import ChallengeDns.Api.Routes
import ChallengeDns.Proofs.Data.Fallible
import ChallengeDns.Proofs.Data.Values
import ChallengeDns.Proofs.Json.Writing
import ChallengeDns.Proofs.Update.Run

/-!
# What requests do to the store

One route leads to the store, and a request that gets there puts one value under one name.  The
request is answered with the value, or with the failure to save it; every other request leaves the
store as it is.
-/
namespace ChallengeDns

/-- A request to publish a value. -/
def Request.IsUpdate (r : Request) : Prop :=
  Text.toUpper r.method = ("POST" : Text) ∧ r.path = ("/update" : Text)

namespace Api

/-- The body of a request is a JSON object, not too long, in which two texts say what to publish
under which name. -/
structure Asks (r : Request) (u : UpdateRequest) : Prop where
  json : r.isJson = true
  size : r.body.length ≤ maxBody
  object : ∃ es, Json.readOctets r.body = some (.ok (.mapping es)) ∧
    (Value.mapping es).get? "subdomain" = some (.ofText u.subdomain) ∧
    (Value.mapping es).get? "txt" = some (.ofText u.txt)

theorem bodyObject_ok_iff (r : Request) (v : Value) :
    bodyObject r = .ok v ↔ r.isJson = true ∧ r.body.length ≤ maxBody ∧
      ∃ es, v = .mapping es ∧ Json.readOctets r.body = some (.ok (.mapping es)) := by
  unfold bodyObject
  cases r.isJson with
  | false => simp
  | true =>
    by_cases long : maxBody < r.body.length
    · have short : ¬r.body.length ≤ maxBody := by omega
      simp [long, short]
    · have short : r.body.length ≤ maxBody := by omega
      simp only [long, short, Bool.not_true, Bool.false_eq_true, if_false, true_and]
      constructor
      · intro read
        split at read <;> cases read
        next es found => exact ⟨es, rfl, found⟩
      · rintro ⟨es, rfl, found⟩
        rw [found]

theorem updateRequest_ok_iff (r : Request) (u : UpdateRequest) :
    updateRequest r = .ok u ↔ Asks r u := by
  unfold updateRequest
  rw [bind_except_ok]
  constructor
  · rintro ⟨v, object, texts⟩
    obtain ⟨json, size, es, rfl, read⟩ := (bodyObject_ok_iff r v).mp object
    split at texts
    next subdomain txt first second =>
      cases texts
      obtain ⟨v, found, text⟩ := Option.bind_eq_some_iff.mp first
      obtain ⟨w, found', text'⟩ := Option.bind_eq_some_iff.mp second
      rw [Value.text?_eq_some] at text text'
      exact ⟨json, size, es, read, text ▸ found, text' ▸ found'⟩
    next => cases texts
  · rintro ⟨json, size, es, read, first, second⟩
    refine ⟨.mapping es, (bodyObject_ok_iff r _).mpr ⟨json, size, es, rfl, read⟩, ?_⟩
    rw [first, second]
    rfl

/-- How far a request gets: its body is refused, or the client is unknown, or the server is shutting
down, or else it is the update that the body asks for. -/
theorem publish_cases (ac : AccessControl) (st : State) (r : Request) :
    (∃ e, updateRequest r = .error e ∧ publish ac st r = ⟨.error e, st, []⟩) ∨
    ∃ u, Asks r u ∧
      ((r.client = [] ∧ publish ac st r =
          ⟨.error (.refused 400 "cannot determine client address"), st, []⟩) ∨
        (st.shutdown.shuttingDown = true ∧ publish ac st r =
          ⟨.error (.refused 503 "server is shutting down"), st, []⟩) ∨
        (st.shutdown.shuttingDown = false ∧
          let a := Gateway.update ac st.store (.ofText r.client) (.text u.subdomain) (.ofText u.txt)
          publish ac st r = ⟨a.result.mapError .ofUpdate, ⟨a.state, st.shutdown⟩, a.logs⟩)) := by
  unfold publish
  cases asked : updateRequest r with
  | error e => exact Or.inl ⟨e, rfl, rfl⟩
  | ok u =>
    right
    refine ⟨u, (updateRequest_ok_iff r u).mp asked, ?_⟩
    dsimp only
    by_cases nobody : r.client = []
    · left
      simp [nobody]
    · right
      cases stopping : st.shutdown.shuttingDown with
      | true =>
        left
        simp [nobody]
      | false =>
        right
        -- The update is counted while it runs, and no longer.
        have counted : (st.shutdown.enter "update").1.leave = st.shutdown := by
          simp [Shutdown.enter, Shutdown.leave]
        have silent : (st.shutdown.enter "update").2 = [] := by
          simp [Shutdown.enter, stopping]
        simp [nobody, counted, silent]

theorem ofPath?_update_iff (path : Text) :
    Route.ofPath? path = some .update ↔ path = ("/update" : Text) := by
  constructor
  · intro route
    unfold Route.ofPath? at route
    split at route
    · cases route
    split at route
    · cases route
    split at route
    · next here => exact eq_of_beq here
    split at route <;> cases route
  · rintro rfl
    rfl

/-- The response to an update that has come to its end. -/
def updateResponse : Except RequestError Text → Response
  | .ok t => .ok "txt" t
  | .error e => (Response.ofError e).1

theorem dispatch_update (ac : AccessControl) (st : State) {r : Request}
    (method : r.method = ("POST" : Text)) (path : r.path = ("/update" : Text)) :
    dispatch ac st r = serve ac st r .update := by
  have route : Route.ofPath? r.path = some .update := (ofPath?_update_iff r.path).mpr path
  unfold dispatch
  rw [route, method]
  rfl

/-- A request to publish is answered as its update ends. -/
theorem handle_update (ac : AccessControl) (st : State) {r : Request} (update : r.IsUpdate) :
    (handle ac st r).1 = updateResponse (publish ac st r).result ∧
      (handle ac st r).2.1 = (publish ac st r).state := by
  obtain ⟨method, path⟩ := update
  -- What is dispatched has its method in capitals; an update does not look at the method again.
  have served := dispatch_update ac st (r := { r with method := Text.toUpper r.method }) method path
  have bodied : (Text.toUpper r.method == ("HEAD" : Text)) = false := by
    rw [method]
    decide
  have result : (serve ac st { r with method := Text.toUpper r.method } .update).result =
      (publish ac st r).result.map (Response.ok "txt") := rfl
  unfold handle conclude
  simp only [served, bodied, result, Bool.false_eq_true, if_false]
  refine ⟨?_, rfl⟩
  cases (publish ac st r).result <;> rfl

/-- A body that is accepted as JSON nests arrays and objects too deeply. -/
def TooDeep (r : Request) : Prop :=
  r.isJson = true ∧ r.body.length ≤ maxBody ∧
    (Json.readOctets r.body = some (.error .nestedArray) ∨
      Json.readOctets r.body = some (.error .nestedObject))

/-- An object with one text is read as its token says. -/
theorem read_objectLine_of {key value told : Text} (named : key.IsJoined)
    (lexes : Json.Lexes (Json.stringText value) [.scalar (.text told)]) :
    Json.read (Response.objectLine key value) = .ok (.mapping [(.text key, .ofText told)]) := by
  have opens : Json.Lexes ("\x7b" : Text) [.openObject] := .mark rfl (fun _ _ => rfl) rfl
  have colon : Json.Lexes (":" : Text) [.colon] := .mark rfl (fun _ _ => rfl) rfl
  have closes : Json.Lexes ("\x7d\n" : Text) [.closeObject] :=
    (Json.Lexes.mark (c := .scalar '\x7d') rfl (fun _ _ => rfl) rfl).append
      (.blank (c := .scalar '\n') rfl)
  have whole := (((opens.append (.text named)).append colon).append lexes).append closes
  have entry : List.Forall₂ (Json.DenotesEntry 0) [(key, [.scalar (.text told)])]
      [(.text key, .ofText told)] := .cons ⟨rfl, .scalar (.text told) 0⟩ .nil
  exact Json.read_of_denotes whole (.mapping entry) (by decide) nofun

/-- What an object with one text says is read from it again. -/
theorem read_objectLine {key value : Text} (named : key.IsJoined) (joined : value.IsJoined) :
    Json.read (Response.objectLine key value) = .ok (.mapping [(.text key, .ofText value)]) :=
  read_objectLine_of named (.text joined)

/-- What a request publishes when it gets as far as the store: the text of its body, a challenge,
under the name of its body qualified with the zone, as its client may. -/
structure Publication (ac : AccessControl) (r : Request) where
  subdomain : Text
  value : Text
  name : Name
  key : Key
  asks : Asks r ⟨subdomain, value⟩
  permitted : ∃ address sub, Address.ofClient (.ofText r.client) = .ok address ∧
    Name.readRelative subdomain = .ok sub ∧ ac.isPermitted address sub = true ∧
    ac.qualify sub = .ok name
  challenge : Challenge.validate (.ofText value) = .ok value
  keyed : Key.ofName name = .ok key

variable {ac : AccessControl} {r : Request}

namespace Publication

/-- The value is told so that it can be read. -/
theorem read_told (p : Publication ac r) :
    Json.read (Response.ok "txt" p.value).body = .ok (.mapping [(.text "txt", .ofText p.value)]) :=
  read_objectLine (joined_of_ascii (by decide))
    (joined_of_chars? (Gateway.validate_ok p.challenge).2)

def put (p : Publication ac r) (s : Store) : Attempt Store PutError Unit :=
  s.put (.name p.name) (.text p.value)

theorem put_eq (p : Publication ac r) (s : Store) :
    p.put s = ⟨(s.putKey p.key (.text p.value)).result.mapError .store,
      (s.putKey p.key (.text p.value)).state, (s.putKey p.key (.text p.value)).logs⟩ :=
  Store.put_keyed p.keyed

/-- A request with something to publish gets through to the store. -/
theorem publish_eq (p : Publication ac r) {st : State}
    (serving : st.shutdown.shuttingDown = false) :
    ∃ logs, publish ac st r =
      ⟨(((p.put st.store).result.map fun _ => p.value).mapError Gateway.putError).mapError
        .ofUpdate, ⟨(p.put st.store).state, st.shutdown⟩, logs⟩ := by
  have asked := (updateRequest_ok_iff r _).mpr p.asks
  obtain ⟨address, sub, client, read, permitted, qualified⟩ := p.permitted
  rcases publish_cases ac st r with ⟨e, refused, _⟩ | ⟨u, asks, far⟩
  · cases asked.symm.trans refused
  -- A body asks for one thing only.
  cases asked.symm.trans ((updateRequest_ok_iff r u).mpr asks)
  rcases far with ⟨nobody, _⟩ | ⟨halted, _⟩ | ⟨_, done⟩
  · rw [nobody] at client
    cases client
  · cases serving.symm.trans halted
  have given : (Name.Given.text p.subdomain).read = .ok sub := read
  obtain ⟨logs, passed⟩ := Gateway.check_of client given permitted p.challenge qualified
  rcases Gateway.update_cases ac st.store (.ofText r.client) (.text p.subdomain)
    (.ofText p.value) with ⟨e, logs', refused, _⟩ | ⟨accepted, logs', passed', made⟩
  · rw [passed] at refused
    cases refused
  · rw [passed] at passed'
    cases passed'
    exact ⟨_, by rw [done, made]; rfl⟩

/-- A request has put what it publishes, once, in front of what its name had.  It is answered with
the value, or with the failure to save it. -/
structure Made (p : Publication ac r) (st : State) (resp : Response) (st' : State) : Prop where
  state : st' = ⟨(p.put st.store).state, st.shutdown⟩
  history : Records.Pushed st.store.records st'.store.records p.key (.text p.value)
  answer : ((p.put st.store).result = .ok () ∧ resp = .ok "txt" p.value ∧
      Json.read resp.body = .ok (.mapping [(.text "txt", .ofText p.value)])) ∨
    ∃ e, (p.put st.store).result = .error (.store e) ∧ e.isPersistence = true ∧
      resp = .failure 500 e.message

theorem made (p : Publication ac r) {st : State} (update : r.IsUpdate)
    (serving : st.shutdown.shuttingDown = false) :
    p.Made st (handle ac st r).1 (handle ac st r).2.1 := by
  obtain ⟨response, state⟩ := handle_update ac st update
  obtain ⟨logs, done⟩ := p.publish_eq serving
  rw [response, state, done]
  -- The value is published whether or not it could be written to the disk.
  rcases st.store.putKey_cases p.key (.text p.value) with
    ⟨result, saved⟩ | ⟨e, result, persistence, unsaved⟩
  · have put : (p.put st.store).result = .ok () := by
      rw [put_eq, result]
      rfl
    refine ⟨rfl, ?_, Or.inl ⟨put, ?_, ?_⟩⟩
    · dsimp only
      rw [put_eq, saved.records]
      exact Records.pushed_put _ _ _
    · rw [put]
      rfl
    · rw [put]
      exact p.read_told
  · have put : (p.put st.store).result = .error (.store e) := by
      rw [put_eq, result]
      rfl
    refine ⟨rfl, ?_, Or.inr ⟨e, put, persistence, ?_⟩⟩
    · dsimp only
      rw [put_eq, unsaved.records]
      exact Records.pushed_put _ _ _
    · rw [put]
      rfl

end Publication

/-- What happens to the interface: a request, under what the file system allows meanwhile, or the
beginning of the shutdown. -/
inductive Event where
  | request (r : Request) (c : Conditions)
  | shutdown

/-- The response to a request, and the state behind it. -/
def respond (ac : AccessControl) (st : State) (r : Request) (c : Conditions) : Response × State :=
  let handled := handle ac ⟨st.store.under c, st.shutdown⟩ r
  (handled.1, handled.2.1)

def advance (ac : AccessControl) (st : State) : Event → State
  | .request r c => (respond ac st r c).2
  | .shutdown => { st with shutdown := st.shutdown.perform.1 }

/-- The state behind some events. -/
def run (ac : AccessControl) (st : State) (events : List Event) : State :=
  events.foldl (advance ac) st

end Api

end ChallengeDns
