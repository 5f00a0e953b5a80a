import WifiStation.Dhcp.Server
import WifiStation.Dhcp.Transport

/-!
# WifiStation.Dhcp.ServerService

A server at work on a network: it answers what it receives until it is shut down or the network
fails. A malformed datagram and an answer that cannot be sent change nothing.
-/

namespace WifiStation.Dhcp

/-- The service. -/
structure ServerService where
  server : Server
  running : Bool := true

namespace ServerService

/-- Takes one datagram; gives the answer to send. -/
def receive (s : ServerService) (result : Except TransportError Packet) (now : Nat) :
    ServerService × Option Packet :=
  if s.running then
    match result with
    | .ok p =>
      let r := s.server.handle p now
      ({ s with server := r.1 }, r.2)
    | .error (.packet _) => (s, none)
    | .error _ => ({ s with running := false }, none)
  else (s, none)

/-- Ends the service. -/
def shutdown (s : ServerService) : ServerService := { s with running := false }

end ServerService

end WifiStation.Dhcp
