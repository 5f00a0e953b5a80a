import WifiStation.Settings.Basic
import WifiStation.Toml.Text

/-!
# WifiStation.Settings.Text

Settings as the text of a file, every field written out.
-/

namespace WifiStation

open WifiStation.Net WifiStation.Toml

/-- A section: its header and its fields, each on a line. -/
def sectionText (name : String) (fields : List (String × String)) : String :=
  "[" ++ name ++ "]\n" ++ String.join (fields.map fun f => f.1 ++ " = " ++ f.2 ++ "\n")

/-- An address as a field. -/
def addressText (a : Ipv4) : String := stringText a.render

/-- The text of a file. -/
def Settings.text (s : Settings) : String :=
  let pool := s.dhcp.server
  "\n".intercalate [
    sectionText "daemon" [("socket_path", stringText s.daemon.socketPath),
      ("http_addr", stringText s.daemon.httpAddr),
      ("http_port", toString s.daemon.httpPort)],
    sectionText "supplicant" [("binary", stringText s.supplicant.binary),
      ("driver", stringText s.supplicant.driver),
      ("socket_dir", stringText s.supplicant.socketDir),
      ("interface", stringText s.supplicant.interface),
      ("startup_timeout_ms", toString s.supplicant.startupTimeoutMs),
      ("command_timeout_ms", toString s.supplicant.commandTimeoutMs)],
    sectionText "dhcp" [("mode", stringText s.dhcp.role.name),
      ("max_attempts", toString s.dhcp.maxAttempts),
      ("retransmit_ms", toString s.dhcp.retransmitMs)],
    sectionText "dhcp.server" [("server_id", addressText pool.serverId),
      ("pool_start", addressText pool.start), ("pool_len", toString pool.len),
      ("subnet_mask", addressText pool.subnetMask), ("gateway", addressText pool.gateway),
      ("lease_secs", toString pool.leaseSecs)],
    sectionText "apps" [("names", stringsText s.apps)],
    sectionText "network" [("path", stringText s.profilePath)],
    sectionText "logging" [("level", stringText s.logLevel)]]

end WifiStation
