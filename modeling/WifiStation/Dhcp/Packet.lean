import WifiStation.Net.Ipv4
import WifiStation.Net.Mac

/-!
# WifiStation.Dhcp.Packet

Messages of the dynamic host configuration protocol: the fixed header and the options that client
and server exchange.

* `Packet.ofClient` is a message a client broadcasts, `Packet.replyTo` the frame of an answer.
* A message without a recognised kind is a packet too (`Options.kind = none`); both machines
  ignore it.
-/

namespace WifiStation.Dhcp

open WifiStation.Net

/-- Who speaks: a client asks, a server answers. -/
inductive Direction where
  | request
  | reply
  deriving DecidableEq, Repr, Inhabited

/-- The kinds of message. -/
inductive Kind where
  | discover
  | offer
  | request
  | decline
  | ack
  | nak
  | release
  | inform
  deriving DecidableEq, Repr, Inhabited

/-- The options a packet can carry. An absent list and an empty one are the same. -/
structure Options where
  /-- Option 53. -/
  kind : Option Kind := none
  /-- Option 1. -/
  subnetMask : Option Ipv4 := none
  /-- Option 3. -/
  routers : List Ipv4 := []
  /-- Option 6. -/
  dnsServers : List Ipv4 := []
  /-- Option 50. -/
  requestedAddr : Option Ipv4 := none
  /-- Option 51, in seconds. -/
  leaseSecs : Option UInt32 := none
  /-- Option 54. -/
  serverId : Option Ipv4 := none
  /-- Option 55: the codes of the options a client would like to get. -/
  parameterRequest : List UInt8 := []
  deriving DecidableEq, Repr, Inhabited

/-- A message. -/
structure Packet where
  direction : Direction := .request
  /-- The transaction id, chosen by the client and copied by the server. -/
  xid : UInt32 := 0
  secs : UInt16 := 0
  flags : UInt16 := 0
  /-- The address the client has. -/
  ciaddr : Ipv4 := .zero
  /-- The address the server gives. -/
  yiaddr : Ipv4 := .zero
  /-- The server's address. -/
  siaddr : Ipv4 := .zero
  /-- The relay's address. -/
  giaddr : Ipv4 := .zero
  /-- The client's hardware address. -/
  chaddr : Mac := .zero
  options : Options := {}
  deriving DecidableEq, Repr, Inhabited

namespace Packet

/-- The flag that asks for a broadcast answer. -/
def broadcastFlag : UInt16 := 0x8000

/-- The parameters a client asks for: mask, router, name servers. -/
def wantedParameters : List UInt8 := [1, 3, 6]

/-- A client's message: broadcast, from `mac`, in transaction `xid`. -/
def ofClient (kind : Kind) (xid : UInt32) (mac : Mac) : Packet :=
  { xid, flags := broadcastFlag, chaddr := mac,
    options := { kind := some kind, parameterRequest := wantedParameters } }

/-- A server's answer: same transaction, flags, relay and client as the request. -/
def replyTo (request : Packet) (kind : Kind) (serverId : Ipv4) : Packet :=
  { direction := .reply, xid := request.xid, flags := request.flags, siaddr := serverId,
    giaddr := request.giaddr, chaddr := request.chaddr,
    options := { kind := some kind, serverId := some serverId } }

/-- The server that a reply names: option 54, else a server address that is not zero. -/
def namedServer (p : Packet) : Option Ipv4 :=
  p.options.serverId.or (if p.siaddr = .zero then none else some p.siaddr)

/-- The address that a request asks for: option 50, else a client address that is not zero. -/
def wantedAddr (p : Packet) : Option Ipv4 :=
  p.options.requestedAddr.or (if p.ciaddr = .zero then none else some p.ciaddr)

end Packet

end WifiStation.Dhcp
