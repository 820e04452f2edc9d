import ChallengeDns.Api.Response
/-!
# Raised errors

What can go wrong while a request is served, whether the server means it to or not.  The handlers of
errors tell four sorts apart; an error in the domain of the server may be of several kinds, and the
first one in a fixed order decides.
-/

namespace ChallengeDns

/-- What was raised while a request was served. -/
inductive Raised where
  /-- The request is refused with a status. -/
  | refused (status : Nat) (message : Text)
  | http (status : ErrorStatus) (description : Option Text)
  | domain (kinds : List DomainErrorKind) (detail : Text)
  /-- Anything else. -/
  | foreign (message : Text)

namespace DomainErrorKind

/-- The kinds that have a status, in the order in which an error is compared with them. -/
def mapped : List DomainErrorKind :=
  [.forbidden, .invalidChallenge, .invalidName, .notFullyQualified, .unimplemented, .persistence]

/-- Which of its kinds decides about an error. -/
def deciding (kinds : List DomainErrorKind) : DomainErrorKind :=
  (mapped.find? (kinds.contains ·)).getD .other

end DomainErrorKind

namespace Raised

def error : Raised → RequestError
  | .refused status message => .refused status message
  | .http status description => .http status description
  | .domain kinds detail => .domain ⟨.deciding kinds, detail⟩
  | .foreign _ => .unexpected

def text : Raised → Text
  | .refused _ message => message
  | .http status description => status.text description
  | .domain _ detail => detail
  | .foreign message => message

end Raised

end ChallengeDns
