import ChallengeDns.Access.Control
import ChallengeDns.Name.Contact
import ChallengeDns.Text.Upper
/-!
# Checking the configuration

Everything that is wrong with a configuration, section by section.  The checks of one section do not
look at the others, but for the zone's domain, with which the subdomains of the access table are
qualified.  Warnings do not keep a configuration from being used.
-/

namespace ChallengeDns

/-- What stops the checks themselves. -/
inductive CheckFault where
  /-- A value of this type cannot be looked up. -/
  | unhashable (kind : Text)
  /-- A number in a message is too long to be shown. -/
  | oversizedNumber
deriving DecidableEq

def CheckFault.message : CheckFault → Text
  | .unhashable kind => "unhashable type: '" ++ kind ++ "'"
  | .oversizedNumber => Scalar.oversized

/-- The problems that a check finds. -/
abbrev Check := Except CheckFault (List Text)

namespace Check

/-- Checks one after the other. -/
def all : List Check → Check
  | [] => .ok []
  | c :: cs => do return (← c) ++ (← all cs)

/-- A problem if the condition does not hold. -/
def require (condition : Bool) (problem : Text) : Check :=
  .ok (if condition then [] else [problem])

/-- A problem whose message shows a value. -/
def showing (v : Value) (problem : Text) : Check :=
  if v.isShown then .ok [problem] else .error .oversizedNumber

/-- A problem that shows a value if the condition does not hold. -/
def requireOf (v : Value) (condition : Bool) (problem : Text) : Check :=
  if condition then .ok [] else showing v problem

/-- The problem of a name that cannot be read, or what follows from one that can. -/
def ofName {α : Type} (label : Text) (r : Except NameError α) (next : α → Check) : Check :=
  match r with
  | .ok a => next a
  | .error e => .ok [label ++ ": " ++ e.message]

end Check

namespace Config

/-- A section of the configuration: a mapping that holds something. -/
def sectionOf (root : Value) (key : Text) : Value :=
  match root.get? key with
  | some (.mapping es) => .mapping es
  | _ => .mapping []

def checkSection (root : Value) (key : Text) : Check :=
  match root.get? key with
  | some (.mapping _) => .ok []
  | some v => .require (!v.holds) (key ++ " must be a mapping (got " ++ v.kind ++ ")")
  | none => .ok []

/-- The text of a field, unless it is empty or none. -/
def filled? (part : Value) (key : Text) : Option Text :=
  ((part.get? key).bind Value.text?).filter (!·.isEmpty)

/-! ### The zone -/

/-- The zone's domain, if it can be read. -/
def zoneDomain? (zone : Value) : Option Name :=
  (filled? zone "domain").bind fun t => (Name.readAbsolute t).toOption

def checkZoneName (zone : Value) (key : Text) : Check :=
  match filled? zone key with
  | none => .ok []
  | some t => .ofName ("zone." ++ key) (Name.readAbsolute t) fun _ => .ok []

def checkZone (zone : Value) : Check := .all [
  .require (filled? zone "domain").isSome "zone.domain is required",
  .require (filled? zone "ns_domain").isSome "zone.ns_domain is required",
  .require (filled? zone "ns_admin").isSome "zone.ns_admin is required",
  checkZoneName zone "domain",
  checkZoneName zone "ns_domain"]

/-- A contact that is no name is warned about. -/
def warnContact (zone : Value) : Check :=
  match filled? zone "ns_admin" with
  | none => .ok []
  | some t =>
    match Contact.name t with
    | .ok _ => .ok []
    | .error e => .ok ["zone.ns_admin cannot be used as an SOA contact (" ++ e.message ++ ") — "
      ++ "SOA queries will fail with SERVFAIL"]

/-! ### The listeners -/

/-- The interface has to be bound to this machine or to a private network. -/
def checkBind (api : Value) : Check :=
  let bind := (api.get? "bind").getD (.ofText "127.0.0.1")
  match Address.ofValue? bind with
  | none => .showing bind ("api.bind must be an IP address (got '" ++ bind.text ++ "')")
  | some a => .requireOf bind (a.isLoopback || a.isPrivate)
    ("api.bind (" ++ bind.text ++ ") is an insecure API bind address — "
      ++ "it must be a loopback or private IP")

/-- The greatest port. -/
def maxPort : Int := 65535

def checkPort (name : Text) (part : Value) (key : Text) : Check :=
  match part.get? key with
  | none => .ok []
  | some v => .requireOf v (match v.integer? with
      | some n => 0 ≤ n && n ≤ maxPort
      | none => false)
    (name ++ "." ++ key ++ " must be a port number (got " ++ v.literal ++ ")")

def checkPositive (name : Text) (part : Value) (key : Text) : Check :=
  match part.get? key with
  | none => .ok []
  | some v => .requireOf v (match v.integer? with
      | some n => 0 < n
      | none => false)
    (name ++ "." ++ key ++ " must be a positive integer (got " ++ v.literal ++ ")")

def checkAddress (name : Text) (part : Value) (key : Text) : Check :=
  match part.get? key with
  | none => .ok []
  | some v => .requireOf v (Address.ofValue? v).isSome
    (name ++ "." ++ key ++ " must be an IP address (got '" ++ v.text ++ "')")

/-- Where the server listens. -/
def checkListeners (api dns : Value) : Check := .all [
  checkBind api,
  checkPort "api" api "port",
  checkPort "dns" dns "udp_port",
  checkPort "dns" dns "tcp_port",
  checkPositive "api" api "timeout_seconds",
  checkPositive "api" api "graceful_timeout_seconds",
  checkPositive "dns" dns "tcp_timeout_seconds",
  checkAddress "dns" dns "udp_bind",
  checkAddress "dns" dns "tcp_bind"]

/-! ### Tables -/

/-- The entries of a table, and the problem if it is none. -/
def tableOf (root : Value) (key what : Text) : List (Scalar × Value) × List Text :=
  match root.get? key with
  | some (.mapping es) => (es, [])
  | some v => ([], if v.holds then [key ++ " must be a mapping of " ++ what] else [])
  | none => ([], [])

/-- A subdomain of the access table has to be relative and to fit before the domain. -/
def checkSubdomain (domain : Option Name) (net : Scalar) (sub : Value) : Check :=
  let label : Text := "acl['" ++ net.plain ++ "']"
  match sub.text? with
  | none => .showing sub (label ++ " contains non-string " ++ sub.literal)
  | some t =>
    .ofName label (Name.readRelative t) fun n =>
      if n.absolute then
        .ok [label ++ " subdomain '" ++ t ++ "' must be relative to zone.domain"]
      else match domain with
        | none => .ok []
        | some d => .ofName label (n.qualify d) fun _ => .ok []

/-- An entry of the access table: a network with a list of subdomains. -/
def checkGrant (domain : Option Name) (net : Scalar) (subdomains : Value) : Check := .all [
  .requireOf (.scalar net) (Network.ofScalar? net).isSome
    ("acl key '" ++ net.plain ++ "' is not a valid network"),
  match subdomains.items? with
  | none => .ok ["acl['" ++ net.plain ++ "'] must be a list of subdomains"]
  | some subs => .all (subs.map (checkSubdomain domain net))]

def checkGrants (root : Value) (domain : Option Name) : Check :=
  let (entries, problems) := tableOf root "acl" "network to subdomain list"
  .all (.ok problems :: entries.map fun e => checkGrant domain e.1 e.2)

/-- An empty access table is warned about. -/
def warnGrants (root : Value) : List Text :=
  if (tableOf root "acl" "").1.isEmpty then
    ["acl is empty — no client will be able to update TXT records"] else []

def checkName (label : Text) (v : Value) : Check :=
  match v.text? with
  | none => .showing v (label ++ " must be a string (got " ++ v.literal ++ ")")
  | some t => .ofName label (Name.readAbsolute t) fun _ => .ok []

/-- An entry of the table of addresses. -/
def checkAddresses (name : Scalar) (addresses : Value) : Check := .all [
  checkName ("addrs key '" ++ name.plain ++ "'") (.scalar name),
  match addresses.items? with
  | none => .ok ["addrs['" ++ name.plain ++ "'] must be a list of IP addresses"]
  | some vs => .all (vs.map fun v => .requireOf v (Address.ofValue? v).isSome
      ("addrs['" ++ name.plain ++ "'] contains invalid IP address " ++ v.literal))]

def checkAddressTable (root : Value) : Check :=
  let (entries, problems) := tableOf root "addrs" "name to address list"
  .all (.ok problems :: entries.map fun e => checkAddresses e.1 e.2)

/-- An entry of the table of name servers. -/
def checkNameServers (name : Scalar) (targets : Value) : Check := .all [
  checkName ("ns_records key '" ++ name.plain ++ "'") (.scalar name),
  match targets.items? with
  | none => .ok ["ns_records['" ++ name.plain ++ "'] must be a list of names"]
  | some vs => .all (vs.map (checkName ("ns_records['" ++ name.plain ++ "'] entry")))]

/-- The table of name servers. -/
def checkNameServerTable (root : Value) : Check :=
  let (entries, problems) := tableOf root "ns_records" "name to nameserver list"
  .all (.ok problems :: entries.map fun e => checkNameServers e.1 e.2)

/-! ### Logging and the store -/

def levels : List Text := ["CRITICAL", "DEBUG", "ERROR", "INFO", "WARNING"]

def checkLevel (logging : Value) : Check :=
  let value := (logging.get? "level").getD (.ofText "INFO")
  let level := value.text.toUpper
  .requireOf value (levels.contains level)
    ("logging.level must be one of " ++ (Value.list (levels.map Value.ofText)).literal ++ " (got '"
      ++ level ++ "')")

def checkFormat (logging : Value) : Check :=
  match (logging.get? "format").getD (.ofText "text") with
  | .list _ => .error (.unhashable "list")
  | .mapping _ => .error (.unhashable "dict")
  | v => .requireOf v (v.text? = some ("text" : Text) || v.text? = some ("json" : Text))
    ("logging.format must be 'text' or 'json' (got '" ++ v.text ++ "')")

def checkStatePath (store : Value) : Check :=
  match store.get? "state_path" with
  | none => .ok []
  | some v => .require (match v with
      | .scalar .null => true
      | v => v.text?.isSome) "store.state_path must be a string path"

/-- A store without a state file is warned about. -/
def warnStatePath (store : Value) : List Text :=
  match store.get? "state_path" with
  | some v => if (match v with
      | .scalar .null => true
      | v => v.text? = some []) then [warning] else []
  | none => [warning]
where
  /-- What is said about such a store. -/
  warning : Text := "store.state_path is not set — TXT records will be lost on restart"

/-! ### All together -/

/-- What is wrong with a configuration and what is doubtful about it. -/
structure Findings where
  problems : List Text
  warnings : List Text

def check (root : Value) : Except CheckFault Findings := do
  let zone := sectionOf root "zone"
  let api := sectionOf root "api"
  let dns := sectionOf root "dns"
  let logging := sectionOf root "logging"
  let store := sectionOf root "store"
  let keys : List Text := ["zone", "api", "dns", "logging", "store"]
  let sections ← Check.all (keys.map (checkSection root))
  let zoneProblems ← checkZone zone
  let contactWarnings ← warnContact zone
  -- Subdomains are checked within the zone, if its domain can be read.
  let rest ← Check.all [
    checkListeners api dns,
    checkGrants root (zoneDomain? zone),
    checkAddressTable root,
    checkNameServerTable root,
    checkLevel logging,
    checkFormat logging,
    checkStatePath store]
  return ⟨sections ++ zoneProblems ++ rest,
    contactWarnings ++ warnGrants root ++ warnStatePath store⟩

end Config

end ChallengeDns
