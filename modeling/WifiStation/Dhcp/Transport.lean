import WifiStation.Dhcp.Wire
import WifiStation.Net.Kernel

/-!
# WifiStation.Dhcp.Transport

Packets as datagrams. A datagram that arrives is cut at 1500 bytes before it is read.
-/

namespace WifiStation.Dhcp

open WifiStation.Net

/-- What can go wrong between a machine and the network. -/
inductive TransportError where
  | socket (reason : String)
  | packet (e : PacketError)
  | kernel (e : KernelError)
  deriving DecidableEq, Repr

/-- The error as text. -/
def TransportError.message : TransportError → String
  | socket reason => s!"DHCP socket error: {reason}"
  | packet e => s!"malformed DHCP packet: {e.message}"
  | kernel e => e.message

/-- The most bytes of a datagram that are received. -/
def maxDatagram : Nat := 1500

/-- The packet of a datagram that arrives. -/
def receive (datagram : List UInt8) : Except TransportError Packet :=
  match Packet.decode (datagram.take maxDatagram) with
  | .ok p => .ok p
  | .error e => .error (.packet e)

end WifiStation.Dhcp
