import WifiStation.Settings.Basic
import WifiStation.Text.Quoted

/-!
# WifiStation.Settings.Fault

Which settings make no sense, and what is said about them.

`Settings.fault?` gives the first fault in the order of the sections. Settings without a fault have
a pool whose addresses do not run over the end of the address space and lie in one subnet with the
server's own address, under a mask whose bits come first.
-/

namespace WifiStation

open WifiStation.Net WifiStation.Text

/-- What is wrong with settings. -/
inductive SettingsFault where
  | socketPath
  | httpPort
  | interface (name : String)
  | supplicantTimeout
  | maxAttempts
  | poolLen
  | subnetMask (mask : Ipv4)
  | poolOverflow
  | poolSubnet
  | appCount (count : Nat)
  | appName (index : Nat)
  | logLevel (level : String)
  deriving DecidableEq, Repr, Inhabited

/-- The most bytes of an interface name. -/
def maxInterfaceBytes : Nat := 15

/-- The most apps. -/
def maxApps : Nat := 255

/-- The levels of logging. -/
def logLevels : List String := ["error", "warn", "info", "debug", "trace"]

/-- Quoted texts between brackets. -/
def quoteAll (texts : List String) : String := "[" ++ ", ".intercalate (texts.map quote) ++ "]"

/-- The fault as text. -/
def SettingsFault.message : SettingsFault → String
  | socketPath => "daemon.socket_path must not be empty"
  | httpPort => "daemon.http_port must be non-zero"
  | interface name =>
    s!"supplicant.interface must be 1..={maxInterfaceBytes} bytes without '/', got " ++ quote name
  | supplicantTimeout => "supplicant timeouts must be non-zero"
  | maxAttempts => "dhcp.max_attempts must be at least 1"
  | poolLen => "dhcp.server.pool_len must be at least 1"
  | subnetMask mask => s!"dhcp.server.subnet_mask {mask.render} is not contiguous"
  | poolOverflow => "dhcp.server pool overflows the address space"
  | poolSubnet => "dhcp.server pool and server_id must share one subnet"
  | appCount count => s!"at most {maxApps} apps are supported, got {count}"
  | appName index => s!"apps.names[{index}] must not be empty"
  | logLevel level => "logging.level must be one of " ++ quoteAll logLevels ++ ", got " ++ quote level

/-! ### Sections -/

/-- The first fault of the daemon's own section. -/
def DaemonSettings.fault? (s : DaemonSettings) : Option SettingsFault :=
  if s.socketPath = "" then some .socketPath
  else if s.httpPort = 0 then some .httpPort
  else none

/-- Whether a name can be that of an interface. -/
def isInterfaceName (name : String) : Bool :=
  name ≠ "" && name.utf8ByteSize ≤ maxInterfaceBytes && !name.toList.contains '/'

/-- The first fault of the supplicant's section. -/
def SupplicantSettings.fault? (s : SupplicantSettings) : Option SettingsFault :=
  if !isInterfaceName s.interface then some (.interface s.interface)
  else if s.startupTimeoutMs = 0 ∨ s.commandTimeoutMs = 0 then some .supplicantTimeout
  else none

/-- The last address of a pool, if it does not run over the end of the address space. -/
def PoolSettings.last? (p : PoolSettings) : Option Ipv4 :=
  let last := p.start.toNat + (p.len.toNat - 1)
  if last < 2 ^ 32 then some (.ofNat last) else none

/-- The first fault of a pool. -/
def PoolSettings.fault? (p : PoolSettings) : Option SettingsFault :=
  if p.len = 0 then some .poolLen
  else if !p.subnetMask.isContiguous then some (.subnetMask p.subnetMask)
  else match p.last? with
    | none => some .poolOverflow
    | some last =>
      if p.subnetMask.sameNetwork p.start last && p.subnetMask.sameNetwork p.start p.serverId then
        none
      else some .poolSubnet

/-- The first fault of the section on addresses. -/
def DhcpSettings.fault? (s : DhcpSettings) : Option SettingsFault :=
  if s.maxAttempts = 0 then some .maxAttempts else s.server.fault?

/-- The first fault of the names of apps. -/
def appsFault? (names : List String) : Option SettingsFault :=
  if maxApps < names.length then some (.appCount names.length)
  else (names.findIdx? (· = "")).map .appName

/-- The fault of a level of logging. -/
def logLevelFault? (level : String) : Option SettingsFault :=
  if level ∈ logLevels then none else some (.logLevel level)

/-- The first fault. -/
def Settings.fault? (s : Settings) : Option SettingsFault :=
  s.daemon.fault?.or <| s.supplicant.fault?.or <| s.dhcp.fault?.or <|
    (appsFault? s.apps).or (logLevelFault? s.logLevel)

/-- Settings have no fault iff no section has one. -/
theorem Settings.fault?_eq_none_iff (s : Settings) :
    s.fault? = none ↔ s.daemon.fault? = none ∧ s.supplicant.fault? = none ∧
      s.dhcp.fault? = none ∧ appsFault? s.apps = none ∧ logLevelFault? s.logLevel = none := by
  simp [fault?]

end WifiStation
