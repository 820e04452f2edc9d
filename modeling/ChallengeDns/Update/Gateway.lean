import ChallengeDns.Access.Control
import ChallengeDns.Challenge.Value
import ChallengeDns.Store.Basic
/-!
# The update gateway

The one way by which clients publish values.  The client's network must be allowed to publish under
the subdomain, and the value must be a challenge value; only then is anything changed.
-/

namespace ChallengeDns

/-- Why a value was not published. -/
inductive UpdateError where
  /-- The client's address is none; it is shown. -/
  | address (shown : Text)
  | name (e : NameError)
  | forbidden (address subdomain : Text)
  | challenge (f : Challenge.Fault)
  | store (e : StoreError)

def UpdateError.message : UpdateError → Text
  | .address shown => shown ++ " does not appear to be an IPv4 or IPv6 address"
  | .name e => e.message
  | .forbidden client subdomain =>
    "IP " ++ client ++ " is not authorized to update \"" ++ subdomain ++ "\""
  | .challenge _ => Challenge.message
  | .store e => e.message

namespace Gateway

def logger : Text := "acmetxt.services.update"

def putError : PutError → UpdateError
  | .name e => .name e
  | .store e => .store e

/-- What an update is about, after the checks: the qualified name and the value. -/
structure Accepted where
  name : Name
  value : Text

def check (ac : AccessControl) (client : Value) (subdomain : Name.Given) (txt : Value) :
    Except UpdateError Accepted × List LogEntry :=
  match Address.ofClient client with
  | .error _ => (.error (.address client.literal), [])
  | .ok address =>
    match subdomain.read with
    | .error e => (.error (.name e), [])
    | .ok sub =>
      let about (verb : Text) (n : Name) : Text :=
        verb ++ " update from " ++ address.text ++ " for \"" ++ n.text ++ "\""
      if ac.isPermitted address sub then
        -- Only who may publish under the name learns what is wrong with the value.
        match Challenge.validate txt with
        | .error f =>
          (.error (.challenge f), [⟨.debug, logger, about "Rejected" sub ++ ": " ++ f.reason⟩])
        | .ok value =>
          match ac.qualify sub with
          | .error e => (.error (.name e), [])
          | .ok n => (.ok ⟨n, value⟩, [⟨.info, logger, about "Accepted" n⟩])
      else
        (.error (.forbidden address.text sub.text), [⟨.debug, logger, about "Rejected" sub⟩])

/-- Publishes a value for a client; gives the value back. -/
def update (ac : AccessControl) (s : Store) (client : Value) (subdomain : Name.Given)
    (txt : Value) : Attempt Store UpdateError Text :=
  match check ac client subdomain txt with
  | (.error e, logs) => ⟨.error e, s, logs⟩
  | (.ok accepted, logs) =>
    let a := s.put (.name accepted.name) (.text accepted.value)
    ⟨(a.result.map fun _ => accepted.value).mapError putError, a.state, logs ++ a.logs⟩

end Gateway

end ChallengeDns
