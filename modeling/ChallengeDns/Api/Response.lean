import ChallengeDns.Api.Status
import ChallengeDns.Json.Writer
import ChallengeDns.Update.Gateway
/-!
# Responses

What the update interface says.  Every error is a JSON object with one key and is kept by nobody.
Unexpected errors all look the same to the client; the log alone tells them apart.
-/

namespace ChallengeDns

structure Response where
  status : Nat
  contentType : Text
  /-- Whether nobody may keep the response. -/
  noStore : Bool
  /-- The methods that the path takes, if that was the question. -/
  allow : Option (List Text)
  body : Text
deriving DecidableEq

/-- What is wrong in the domain of the server. -/
inductive DomainErrorKind where
  | forbidden
  | invalidChallenge
  | invalidName
  | notFullyQualified
  | unimplemented
  | persistence
  /-- No status is meant for it. -/
  | other
deriving DecidableEq

structure DomainError where
  kind : DomainErrorKind
  detail : Text

namespace DomainError

def status (e : DomainError) : Nat :=
  match e.kind with
  | .forbidden => 403
  | .invalidChallenge => 400
  | .invalidName => 400
  | .notFullyQualified => 400
  | .unimplemented => 501
  | .persistence => 500
  | .other => 500

def notProvided : DomainError := ⟨.unimplemented, "not implemented"⟩

end DomainError

/-- Why a request fails. -/
inductive RequestError where
  /-- The request is not what the interface expects. -/
  | refused (status : Nat) (message : Text)
  | http (status : ErrorStatus) (description : Option Text)
  | domain (e : DomainError)
  | unexpected

namespace RequestError

def ofUpdate : UpdateError → RequestError
  | .address _ => .unexpected
  | .name (.notFullyQualified n) =>
    .domain ⟨.notFullyQualified, (NameError.notFullyQualified n).message⟩
  | .name e => .domain ⟨.invalidName, e.message⟩
  | .forbidden client subdomain =>
    .domain ⟨.forbidden, (UpdateError.forbidden client subdomain).message⟩
  | .challenge _ => .domain ⟨.invalidChallenge, Challenge.message⟩
  | .store e => .domain ⟨.persistence, e.message⟩

end RequestError

namespace Response

def jsonType : Text := "application/json"

/-- A JSON object with one text, on a line of its own. -/
def objectLine (key value : Text) : Text :=
  "\x7b" ++ Json.stringText key ++ ":" ++ Json.stringText value ++ "\x7d\n"

def ok (key value : Text) : Response := ⟨200, jsonType, false, none, objectLine key value⟩

def failure (status : Nat) (message : Text) : Response :=
  ⟨status, jsonType, true, none, objectLine "error" message⟩

def methods (names : List Text) : Response :=
  ⟨200, "text/html; charset=utf-8", false, some names, []⟩

def errorLogger : Text := "acmetxt.app.errors"

def internalError : Response := failure 500 "internal server error"

/-- The response to a request that fails, and what is reported. -/
def ofError : RequestError → Response × List LogEntry
  | .refused status message => (failure status message, [])
  | .http status description =>
    (failure status.code (status.told description), [])
  | .unexpected =>
    (internalError, [⟨.error, errorLogger, "Unhandled exception during request"⟩])
  | .domain e =>
    if e.kind = .other then
      (internalError,
        [⟨.error, errorLogger, "Unmapped error during request: " ++ e.detail⟩])
    else
      let told (verb : Text) : Text :=
        "Request " ++ verb ++ " (" ++ Text.ofNat e.status ++ "): " ++ e.detail
      (failure e.status e.detail,
        if 500 ≤ e.status then [⟨.error, errorLogger, told "failed"⟩]
        else [⟨.info, errorLogger, told "rejected"⟩])

end Response

end ChallengeDns
