import Mathlib
import ChallengeDns.Api.Raised
import ChallengeDns.Proofs.Api.Requests

/-!
# Uniform responses

Whatever goes wrong while a request is served, the response has one form: every failure is an object
with one text, unexpected errors cannot be told apart by clients, and the access log gets one line.
-/
namespace ChallengeDns

def accessLogger : Text := "acmetxt.access"

/-- None of these entries belongs to the access log. -/
def OffRecord (logs : List LogEntry) : Prop := ∀ l ∈ logs, l.logger ≠ accessLogger

namespace Api

theorem OffRecord.append {logs more : List LogEntry} (first : OffRecord logs)
    (second : OffRecord more) : OffRecord (logs ++ more) :=
  List.forall_mem_append.mpr ⟨first, second⟩

end Api

end ChallengeDns
