import ChallengeDns.Address.Reader
import ChallengeDns.Data.Value
import ChallengeDns.Log.Entry
import ChallengeDns.Name.Reader
/-!
# Access control

Clients are known by their address alone: each network may publish under certain subdomains of the
zone.  The same table says which names can have a published value at all, the eligible ones.
-/

namespace ChallengeDns

/-- Why no address, network or name could be read. -/
inductive AccessError where
  /-- No address; the value is shown. -/
  | address (shown : Text)
  /-- No network; the value is shown. -/
  | network (shown : Text)
  | name (e : NameError)
deriving DecidableEq

/-- The address that a value stands for: a text, a number, or 4 or 16 octets. -/
def Address.ofValue? : Value → Option Address
  | .scalar (.text t) => Address.read? t
  | .scalar (.bytes b) => Address.ofBytes? b
  | v => v.integer?.bind Address.ofInt?

/-- The address of a client; an IPv4 address inside an IPv6 one counts as itself. -/
def Address.ofClient (v : Value) : Except AccessError Address :=
  match Address.ofValue? v with
  | some a => .ok a.unmapped
  | none => .error (.address v.literal)

/-- The network that a key stands for: a text with a length or without, or an address alone. -/
def Network.ofScalar? : Scalar → Option Network
  | .text t => Network.read? t
  | s => (Address.ofValue? (.scalar s)).map Network.single

/-- What each network may publish: networks with their subdomains. -/
abbrev Grants := List (Network × List Name)

namespace Grants

/-- Adds subdomains to what a network may publish. -/
def grant (net : Network) (names : List Name) : Grants → Grants
  | [] => [(net, names.foldl (fun set n => insertName n set) [])]
  | e :: grants =>
    if e.1 = net then (net, names.foldl (fun set n => insertName n set) e.2) :: grants
    else e :: grant net names grants

/-- One entry of the table as it is written. -/
def readEntry (net : Scalar) (subdomains : List Text) :
    Except AccessError (Network × List Name) :=
  match Network.ofScalar? net with
  | none => .error (.network net.literal)
  | some n =>
    match subdomains.mapM Name.readRelative with
    | .ok names => .ok (n, names)
    | .error e => .error (.name e)

/-- The table as it is written; entries for one network are put together. -/
def read (entries : List (Scalar × List Text)) : Except AccessError Grants := do
  let read ← entries.mapM fun e => readEntry e.1 e.2
  return read.foldl (fun grants e => grant e.1 e.2 grants) []

end Grants

/-- Who may publish what. -/
structure AccessControl where
  domain : Name
  grants : Grants
  /-- The subdomains of all networks, qualified with the domain. -/
  eligible : List Name

namespace AccessControl

/-- The access control of a zone, if all subdomains can be qualified with it. -/
def ofGrants (domain : Name) (grants : Grants) : Except NameError AccessControl := do
  let names ← (grants.flatMap (·.2)).mapM (Name.qualify · domain)
  return ⟨domain, grants, names.foldl (fun set n => insertName n set) []⟩

def loaded (ac : AccessControl) : LogEntry :=
  ⟨.debug, "acmetxt.acl", "ACL loaded: " ++ Text.ofNat ac.grants.length ++ " network(s), "
    ++ Text.ofNat ac.eligible.length ++ " eligible TXT name(s)"⟩

/-- Whether a network that holds the address may publish under the subdomain. -/
def isPermitted (ac : AccessControl) (a : Address) (subdomain : Name) : Bool :=
  ac.grants.any fun g => g.1.contains a.unmapped && g.2.any (·.same subdomain)

/-- Whether a name can have a published value. -/
def isEligible (ac : AccessControl) (n : Name) : Bool := ac.eligible.any (·.same n)

/-- The subdomain qualified with the zone. -/
def qualify (ac : AccessControl) (subdomain : Name) : Except NameError Name :=
  subdomain.qualify ac.domain

end AccessControl

end ChallengeDns
