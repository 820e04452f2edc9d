import ChallengeDns.Config.Check
/-!
# Settings

What the server is told to do, read from a configuration that has been checked.  Fields that are
left out have their usual values here.
-/

namespace ChallengeDns

/-- The zone, its first name server and the administrator's address. -/
structure ZoneSettings where
  domain : Name
  nameServer : Name
  contact : Text

/-- Where clients send updates. -/
structure ApiSettings where
  bind : Value
  port : Value
  timeout : Value
  gracefulTimeout : Value

/-- Where questions are answered. -/
structure DnsSettings where
  udpBind : Value
  udpPort : Value
  tcpBind : Value
  tcpPort : Value
  tcpTimeout : Value

/-- Answers that do not change. -/
structure RecordSettings where
  addresses : NameMap (List Address)
  nameServers : NameMap (List Name)

/-- What is logged, and how. -/
structure LoggingSettings where
  level : Value
  format : Value

/-- All settings. -/
structure Settings where
  zone : ZoneSettings
  statePath : Option Text
  api : ApiSettings
  dns : DnsSettings
  grants : Grants
  records : RecordSettings
  logging : LoggingSettings

/-- Why settings cannot be read from a configuration; one that was checked has no such fault. -/
inductive SettingsFault where
  | missing (key : Text)
  | access (e : AccessError)
  | name (e : NameError)
  | address (shown : Text)

def SettingsFault.message : SettingsFault → Text
  | .missing key => key.quoted
  | .access (.address shown) => shown ++ " does not appear to be an IPv4 or IPv6 address"
  | .access (.network shown) => shown ++ " does not appear to be an IPv4 or IPv6 network"
  | .access (.name e) => e.message
  | .name e => e.message
  | .address shown => shown ++ " does not appear to be an IPv4 or IPv6 address"

namespace Settings

/-- A field, or its usual value. -/
def fieldOr (part : Value) (key : Text) (usual : Value) : Value := (part.get? key).getD usual

def requiredText (part : Value) (key : Text) : Except SettingsFault Text :=
  match (part.get? key).bind Value.text? with
  | some t => .ok t
  | none => .error (.missing key)

def readName (t : Text) : Except SettingsFault Name := (Name.readAbsolute t).mapError .name

def readZone (part : Value) : Except SettingsFault ZoneSettings := do
  let domain ← readName (← requiredText part "domain")
  let nameServer ← readName (← requiredText part "ns_domain")
  -- The contact stays a text; it is read when the start of the zone is asked for.
  return ⟨domain, nameServer, ← requiredText part "ns_admin"⟩

def readApi (part : Value) : ApiSettings where
  bind := fieldOr part "bind" (.ofText "127.0.0.1")
  port := fieldOr part "port" (.ofInt 3000)
  timeout := fieldOr part "timeout_seconds" (.ofInt 30)
  gracefulTimeout := fieldOr part "graceful_timeout_seconds" (.ofInt 10)

def readDns (part : Value) : DnsSettings where
  udpBind := fieldOr part "udp_bind" (.ofText "0.0.0.0")
  udpPort := fieldOr part "udp_port" (.ofInt 53)
  tcpBind := fieldOr part "tcp_bind" (.ofText "0.0.0.0")
  tcpPort := fieldOr part "tcp_port" (.ofInt 53)
  tcpTimeout := fieldOr part "tcp_timeout_seconds" (.ofInt 10)

def readGrants (root : Value) : Except SettingsFault Grants :=
  let entries := (Config.tableOf root "acl" "").1.map fun e =>
    (e.1, (e.2.items?.getD []).filterMap Value.text?)
  (Grants.read entries).mapError .access

def readAddress (v : Value) : Except SettingsFault Address :=
  match Address.ofValue? v with
  | some a => .ok a
  | none => .error (.address v.literal)

/-- A table whose keys are absolute names; a name that comes again keeps its place and spelling and
takes the last value. -/
def readTable {α : Type} (root : Value) (key : Text) (item : Value → Except SettingsFault α) :
    Except SettingsFault (NameMap (List α)) := do
  let entries ← (Config.tableOf root key "").1.mapM fun e => do
    let n ← readName e.1.plain
    return (n, ← (e.2.items?.getD []).mapM item)
  return .ofEntries entries

def readRecords (root : Value) : Except SettingsFault RecordSettings := do
  let addresses ← readTable root "addrs" readAddress
  return ⟨addresses, ← readTable root "ns_records" fun v => readName v.text⟩

def read (root : Value) : Except SettingsFault Settings := do
  let zone ← readZone (Config.sectionOf root "zone")
  let grants ← readGrants root
  let records ← readRecords root
  let logging := Config.sectionOf root "logging"
  return {
    zone := zone
    statePath := Config.filled? (Config.sectionOf root "store") "state_path"
    api := readApi (Config.sectionOf root "api")
    dns := readDns (Config.sectionOf root "dns")
    grants := grants
    records := records
    logging :=
      ⟨fieldOr logging "level" (.ofText "INFO"), fieldOr logging "format" (.ofText "text")⟩ }

end Settings

end ChallengeDns
