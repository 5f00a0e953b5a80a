import WifiStation.Dhcp.Lease

/-!
# WifiStation.Settings.Basic

The settings of a daemon, section by section, each field with its default.

The fields have the width that their readers accept, so a value of `Settings` can hold nothing that
a file could not say. Which settings make sense together is `Settings.fault?`, in its own module.
-/

namespace WifiStation

open WifiStation.Net WifiStation.Dhcp

/-- Where the daemon can be reached. -/
structure DaemonSettings where
  /-- The path of the control socket. -/
  socketPath : String := "/tmp/wlinkd.sock"
  /-- The address of the status page, as written. -/
  httpAddr : String := "0.0.0.0"
  /-- The port of the status page. -/
  httpPort : UInt16 := 1338
  deriving DecidableEq, Repr

/-- How the supplicant is started and reached. -/
structure SupplicantSettings where
  /-- The program. -/
  binary : String := "/sbin/wpa_supplicant"
  /-- The driver that the program is told to use. -/
  driver : String := "nl80211"
  /-- The directory of the control sockets. -/
  socketDir : String := "/tmp/wlinkd_sockets"
  /-- The interface to manage. -/
  interface : String := "wlan0"
  /-- How long the control socket may take to appear. -/
  startupTimeoutMs : UInt64 := 5000
  /-- How long a reply may take. -/
  commandTimeoutMs : UInt64 := 10000
  deriving DecidableEq, Repr

/-- The part the daemon plays in handing out addresses. -/
inductive DhcpRole where
  /-- It asks for an address once there is a link. -/
  | client
  /-- It hands out addresses of its pool. -/
  | server
  /-- It leaves addresses alone. -/
  | off
  deriving DecidableEq, Repr, Inhabited

/-- The roles in the order of their declaration. -/
def DhcpRole.all : List DhcpRole := [.client, .server, .off]

/-- The name of a role. -/
def DhcpRole.name : DhcpRole → String
  | client => "client"
  | server => "server"
  | off => "off"

/-- The role of a name. -/
def DhcpRole.ofName? (name : String) : Option DhcpRole := all.find? (·.name = name)

/-- The addresses that are handed out in the server's part. -/
structure PoolSettings where
  /-- The address of the server itself. -/
  serverId : Ipv4 := .ofBytes 10 0 0 1
  /-- The first address to hand out. -/
  start : Ipv4 := .ofBytes 10 0 0 2
  /-- The number of addresses. -/
  len : UInt32 := 5
  subnetMask : Ipv4 := .ofBytes 255 255 255 248
  gateway : Ipv4 := .ofBytes 10 0 0 1
  /-- How long a lease lasts. -/
  leaseSecs : UInt32 := 3600
  deriving DecidableEq, Repr

/-- The pool that a server is built on. -/
def PoolSettings.toPool (p : PoolSettings) : Pool :=
  { serverId := p.serverId
    start := p.start
    len := p.len.toNat
    subnetMask := p.subnetMask
    gateway := p.gateway
    leaseSecs := p.leaseSecs.toNat }

/-- How addresses are got or given. -/
structure DhcpSettings where
  role : DhcpRole := .client
  /-- How often a packet is sent in one phase. -/
  maxAttempts : UInt32 := 4
  /-- How long to wait before sending again. -/
  retransmitMs : UInt64 := 3000
  server : PoolSettings := {}
  deriving DecidableEq, Repr

/-- All settings. -/
structure Settings where
  daemon : DaemonSettings := {}
  supplicant : SupplicantSettings := {}
  dhcp : DhcpSettings := {}
  /-- The names of the apps; the position of a name is the number of the app. -/
  apps : List String := []
  /-- The path of the file that keeps the network profile. -/
  profilePath : String := "./config.json"
  /-- How much is logged. -/
  logLevel : String := "info"
  deriving DecidableEq, Repr

end WifiStation
