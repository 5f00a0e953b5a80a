import WifiStation.Daemon.Error
import WifiStation.Net.Endpoint
import WifiStation.Settings.Basic
import WifiStation.Text.Quoted

/-!
# WifiStation.Daemon.Address

Where the status page is: the address that the daemon listens on, and the address under which a
program on the same machine finds it.

The settings hold an address as text and a port. The daemon reads both together as an endpoint. A
client takes the loopback address where the daemon listens on every address.
-/

namespace WifiStation.DaemonSettings

open WifiStation.Net WifiStation.Text

/-- An address and a port with a colon between them. -/
def hostAndPort (host : String) (port : UInt16) : String := s!"{host}:{port}"

/-- Where the daemon listens. -/
def endpoint (s : DaemonSettings) : Except DaemonError Endpoint :=
  match Endpoint.read? (hostAndPort s.httpAddr s.httpPort).toList with
  | some e => .ok e
  | none => .error (.startup
      ("invalid HTTP address " ++ quote s.httpAddr ++ ": invalid socket address syntax"))

/-- The address that a client on the same machine uses. -/
def clientHost (s : DaemonSettings) : String :=
  if s.httpAddr = "0.0.0.0" ∨ s.httpAddr = "" then "127.0.0.1"
  else if s.httpAddr = "::" then "[::1]"
  else s.httpAddr

/-- What the addresses of all pages start with. -/
def baseUrl (s : DaemonSettings) : String := "http://" ++ hostAndPort s.clientHost s.httpPort

end WifiStation.DaemonSettings
