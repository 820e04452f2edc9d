import ChallengeDns.Data.Value
import ChallengeDns.Text.Base64
/-!
# Challenge values

A value that may be published is the digest of a key authorisation: 32 octets in the base64 alphabet
for addresses, without padding, and in the one spelling whose unused last bits are zero.
-/

namespace ChallengeDns.Challenge

/-- Why a value may not be published. -/
inductive Fault where
  | alphabet
  | undecodable (f : Base64.Fault)
  | wrongLength (found : Nat)
  | trailingBits
deriving DecidableEq

def digestLength : Nat := 32

/-- The reason as it is reported; clients get the same message for all of them. -/
def Fault.reason : Fault → Text
  | .alphabet => "invalid encoding: not unpadded base64url"
  | .undecodable f => "invalid encoding: " ++ f.message
  | .wrongLength found => "invalid decoded length: found " ++ Text.ofNat found
    ++ " bytes, expected " ++ Text.ofNat digestLength
  | .trailingBits => "invalid encoding: non-zero trailing bits"

/-- What clients are told about a value that may not be published. -/
def message : Text := "TXT value is not a valid DNS-01 challenge response"

/-- The padding that fills up the last group of a text. -/
def padding (length : Nat) : List Char := List.replicate ((4 - length % 4) % 4) '='

/-- The digest that a text of the alphabet stands for. -/
def digest (cs : List Char) : Except Fault Bytes :=
  if !cs.all fun c => (Base64.Alphabet.url.value? c).isSome then .error .alphabet
  else match Base64.decode .url (cs ++ padding cs.length) with
    | .error f => .error (.undecodable f)
    | .ok bytes =>
      if bytes.length ≠ digestLength then .error (.wrongLength bytes.length)
      else if Base64.encode .url bytes ≠ cs then .error .trailingBits
      else .ok bytes

/-- The text of a value that may be published. -/
def validate (v : Value) : Except Fault Text :=
  match v with
  | .scalar (.text t) =>
    match t.chars? with
    | none => .error .alphabet
    | some cs => (digest cs).map fun _ => t
  | _ => .error .alphabet

end ChallengeDns.Challenge
