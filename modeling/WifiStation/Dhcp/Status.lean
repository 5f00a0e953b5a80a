import WifiStation.Dhcp.Client
import WifiStation.Json.Value

/-!
# WifiStation.Dhcp.Status

The report of a client: its phase, whether it has failed, and its lease. What is not there is left
out.
-/

namespace WifiStation.Dhcp

open WifiStation.Net

/-- The name of a phase in a report. -/
def Phase.name : Phase → String
  | idle => "idle"
  | discovering => "discovering"
  | requesting => "requesting"
  | configured => "configured"

/-- An address in a report. -/
def addrJson (a : Ipv4) : Json := .string a.render

/-- The report of a lease. -/
def LeaseStatus.json (l : LeaseStatus) : Json :=
  .object (
    [("ip", addrJson l.ip), ("subnetmask", addrJson l.subnetMask)] ++
    (l.gateway.map fun g => ("defaultgw", addrJson g)).toList ++
    [("nameservers", .array (l.nameservers.map addrJson))])

/-- The report of a client. -/
def ClientStatus.json (s : ClientStatus) : Json :=
  .object (
    [("state", .string s.phase.name)] ++
    (if s.failed then [("failed", .bool true)] else []) ++
    (s.lease.map fun l => ("lease", l.json)).toList)

end WifiStation.Dhcp
