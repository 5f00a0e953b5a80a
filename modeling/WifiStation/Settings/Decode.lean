import WifiStation.Settings.Error
import WifiStation.Settings.Fault
import WifiStation.Toml.Value

/-!
# WifiStation.Settings.Decode

Settings out of a TOML document.

* A section is a table with its fields by name, or an array with its fields in order; a field that
  is missing has its default. A date stands for a table with none of the names.
* Names that no field has are passed over, but a number that no reader can take is a fault even
  there.
* Numbers are taken by their range, and nothing is converted from one type to another.

`Settings.parse` is the way from a file's text to settings without a fault.
-/

namespace WifiStation

open WifiStation.Net

/-! ### Sections -/

namespace Toml

mutual

/-- Whether every number in a value is within the range of some reader. -/
def isTakeable : Toml → Bool
  | integer n => -(2 ^ 127) ≤ n && n < 2 ^ 128
  | float kind => kind ≠ .overflow
  | array items => areTakeable items
  | tables items => areTablesTakeable items
  | table entries _ => areEntriesTakeable entries
  | _ => true

/-- The same of all items of an array. -/
def areTakeable : List Toml → Bool
  | [] => true
  | v :: rest => isTakeable v && areTakeable rest

/-- The same of all values of a table. -/
def areEntriesTakeable : List (String × Toml) → Bool
  | [] => true
  | (_, v) :: rest => isTakeable v && areEntriesTakeable rest

/-- The same of all tables of an array of tables. -/
def areTablesTakeable : List (List (String × Toml)) → Bool
  | [] => true
  | es :: rest => areEntriesTakeable es && areTablesTakeable rest

end

/-- The fields of a section. -/
inductive Section where
  /-- By name. -/
  | named (entries : Entries)
  /-- In order. -/
  | listed (items : List Toml)
  deriving Repr, Inhabited

/-- The section of a table, whose fields have the names given. -/
def Section.ofEntries? (names : List String) (es : Entries) : Option Section :=
  if areEntriesTakeable (es.filter fun e => !names.contains e.1) then some (.named es) else none

/-- The section of a value. -/
def Section.ofValue? (names : List String) : Toml → Option Section
  | table es _ => ofEntries? names es
  | array items => some (.listed items)
  | tables items => some (.listed (items.map fun es => .table es .header))
  | dateTime => some (.named [])
  | _ => none

/-- The value of a field, by its name and its position among the fields. -/
def Section.get? (s : Section) (names : List String) (name : String) : Option Toml :=
  match s with
  | named es => Toml.get? name es
  | listed items => items[names.idxOf name]?

/-- A field read by a reader, or its default. -/
def Section.field {α : Type} (s : Section) (names : List String) (name : String)
    (read : Toml → Option α) (default : α) : Option α :=
  match s.get? names name with
  | none => some default
  | some v => read v

/-! ### Fields -/

/-- A text. -/
def text? : Toml → Option String
  | string s => some s
  | _ => none

/-- A number of a width in bits. -/
def unsigned? (bits : Nat) : Toml → Option Nat
  | integer n => if 0 ≤ n ∧ n < 2 ^ bits then some n.toNat else none
  | _ => none

/-- A number of sixteen bits. -/
def word16? (v : Toml) : Option UInt16 := (unsigned? 16 v).map UInt16.ofNat

/-- A number of thirty-two bits. -/
def word32? (v : Toml) : Option UInt32 := (unsigned? 32 v).map UInt32.ofNat

/-- A number of sixty-four bits. -/
def word64? (v : Toml) : Option UInt64 := (unsigned? 64 v).map UInt64.ofNat

/-- An address, written as a text. -/
def address? (v : Toml) : Option Ipv4 := v.text?.bind fun s => Ipv4.read? s.toList

/-- A list of texts. -/
def texts? : Toml → Option (List String)
  | array items => items.mapM text?
  | tables items => if items.isEmpty then some [] else none
  | _ => none

/-- Whether a value holds nothing, as what stands behind the name of a role. -/
def isVoid : Toml → Bool
  | table es _ => es.isEmpty
  | array items => items.isEmpty
  | _ => false

/-- A role: its name, or a table that has the name as its one key. -/
def role? : Toml → Option DhcpRole
  | string s => DhcpRole.ofName? s
  | table [(name, v)] _ => if v.isVoid then DhcpRole.ofName? name else none
  | _ => none

end Toml

/-! ### Settings -/

open Toml in
/-- The daemon's own section. -/
def DaemonSettings.ofToml? (v : Toml) : Option DaemonSettings := do
  let names := ["socket_path", "http_addr", "http_port"]
  let dflt : DaemonSettings := {}
  let s ← Section.ofValue? names v
  return {
    socketPath := ← s.field names "socket_path" text? dflt.socketPath
    httpAddr := ← s.field names "http_addr" text? dflt.httpAddr
    httpPort := ← s.field names "http_port" word16? dflt.httpPort }

open Toml in
/-- The supplicant's section. -/
def SupplicantSettings.ofToml? (v : Toml) : Option SupplicantSettings := do
  let names := ["binary", "driver", "socket_dir", "interface", "startup_timeout_ms",
    "command_timeout_ms"]
  let dflt : SupplicantSettings := {}
  let s ← Section.ofValue? names v
  return {
    binary := ← s.field names "binary" text? dflt.binary
    driver := ← s.field names "driver" text? dflt.driver
    socketDir := ← s.field names "socket_dir" text? dflt.socketDir
    interface := ← s.field names "interface" text? dflt.interface
    startupTimeoutMs := ← s.field names "startup_timeout_ms" word64? dflt.startupTimeoutMs
    commandTimeoutMs := ← s.field names "command_timeout_ms" word64? dflt.commandTimeoutMs }

open Toml in
/-- The pool's section. -/
def PoolSettings.ofToml? (v : Toml) : Option PoolSettings := do
  let names := ["server_id", "pool_start", "pool_len", "subnet_mask", "gateway", "lease_secs"]
  let dflt : PoolSettings := {}
  let s ← Section.ofValue? names v
  return {
    serverId := ← s.field names "server_id" address? dflt.serverId
    start := ← s.field names "pool_start" address? dflt.start
    len := ← s.field names "pool_len" word32? dflt.len
    subnetMask := ← s.field names "subnet_mask" address? dflt.subnetMask
    gateway := ← s.field names "gateway" address? dflt.gateway
    leaseSecs := ← s.field names "lease_secs" word32? dflt.leaseSecs }

open Toml in
/-- The section on addresses. -/
def DhcpSettings.ofToml? (v : Toml) : Option DhcpSettings := do
  let names := ["mode", "max_attempts", "retransmit_ms", "server"]
  let dflt : DhcpSettings := {}
  let s ← Section.ofValue? names v
  return {
    role := ← s.field names "mode" role? dflt.role
    maxAttempts := ← s.field names "max_attempts" word32? dflt.maxAttempts
    retransmitMs := ← s.field names "retransmit_ms" word64? dflt.retransmitMs
    server := ← s.field names "server" PoolSettings.ofToml? dflt.server }

open Toml in
/-- A section of one field. -/
def Toml.soleField? {α : Type} (name : String) (read : Toml → Option α) (dflt : α) (v : Toml) :
    Option α := do
  let s ← Section.ofValue? [name] v
  s.field [name] name read dflt

open Toml in
/-- The settings of a document. -/
def Settings.ofToml? (root : Entries) : Option Settings := do
  let names := ["daemon", "supplicant", "dhcp", "apps", "network", "logging"]
  let dflt : Settings := {}
  let s ← Section.ofEntries? names root
  return {
    daemon := ← s.field names "daemon" DaemonSettings.ofToml? dflt.daemon
    supplicant := ← s.field names "supplicant" SupplicantSettings.ofToml? dflt.supplicant
    dhcp := ← s.field names "dhcp" DhcpSettings.ofToml? dflt.dhcp
    apps := ← s.field names "apps" (soleField? "names" texts? dflt.apps) dflt.apps
    profilePath := ← s.field names "network" (soleField? "path" text? dflt.profilePath)
      dflt.profilePath
    logLevel := ← s.field names "logging" (soleField? "level" text? dflt.logLevel) dflt.logLevel }

/-! ### Text -/

/-- The settings that a text gives; they have no fault. -/
def Settings.parse (text : String) : Except SettingsError Settings :=
  match (Toml.parse? text.toList).bind ofToml? with
  | none => .error .malformed
  | some s =>
    match s.fault? with
    | some fault => .error (.invalid fault.message)
    | none => .ok s

/-- Settings that a text gives have no fault. -/
theorem Settings.fault?_of_parse {text : String} {s : Settings} (h : parse text = .ok s) :
    s.fault? = none := by
  unfold parse at h
  split at h
  · exact absurd h (by simp)
  · split at h
    · exact absurd h (by simp)
    · rename_i hf
      cases h
      exact hf

end WifiStation
