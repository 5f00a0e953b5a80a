import WifiStation.Dhcp.Packet

/-!
# WifiStation.Dhcp.Client

The client that acquires an address for one interface.

It moves through `idle → discovering → requesting → configured`, and back to `idle` by `stop`.
The machine performs nothing itself: every input gives the next state and the actions that its
owner has to perform, in order.

Design points:

* Time is an argument, in milliseconds, and so is the transaction id `fresh` that a step uses if
  it starts a new phase.
* A phase sends one packet at most `maxAttempts` times, `retransmitMs` apart. When the attempts
  are used up the failure is recorded and the machine stays where it is until it is stopped.
* During a renewal the lease is kept; it is given up, and the address removed, when the server
  refuses or does not answer.
-/

namespace WifiStation.Dhcp

open WifiStation.Net

/-- Where the client stands. -/
inductive Phase where
  | idle
  | discovering
  | requesting
  | configured
  deriving DecidableEq, Repr, Inhabited

/-- A lease as the server granted it. -/
structure Lease where
  addr : Ipv4
  subnetMask : Ipv4
  gateway : Option Ipv4
  nameservers : List Ipv4
  leaseSecs : UInt32
  serverId : Ipv4
  deriving DecidableEq, Repr, Inhabited

/-- What the owner of a client has to do. -/
inductive Action where
  /-- Send a packet to the server. -/
  | send (packet : Packet)
  /-- Give the interface an address and, if there is a gateway, a default route. -/
  | configure (ifindex : UInt32) (addr : Ipv4) (prefixLength : Nat) (gateway : Option Ipv4)
  /-- Take every address off the interface. -/
  | clearAddress (ifindex : UInt32)
  deriving DecidableEq, Repr, Inhabited

/-- A client. -/
structure Client where
  phase : Phase := .idle
  ifindex : UInt32 := 0
  mac : Mac := .zero
  /-- The transaction id of the current phase. -/
  xid : UInt32 := 0
  /-- The packet of the current phase, kept for sending it again. -/
  outstanding : Option Packet := none
  /-- How often it has been sent. -/
  attempts : Nat := 0
  maxAttempts : Nat
  retransmitMs : Nat
  /-- When there is next something to do. -/
  deadline : Option Nat := none
  failed : Bool := false
  lease : Option Lease := none
  deriving DecidableEq, Repr, Inhabited

namespace Client

/-- How many name servers of an ACK are kept. -/
def maxNameservers : Nat := 3

/-- The mask assumed where an ACK has none. -/
def fallbackMask : Ipv4 := Ipv4.ofBytes 255 255 255 0

/-- The lease time assumed where an ACK has none, in seconds. -/
def fallbackLeaseSecs : UInt32 := 3600

/-- An idle client that sends each packet at least once. -/
def new (maxAttempts retransmitMs : Nat) : Client :=
  { maxAttempts := max maxAttempts 1, retransmitMs }

/-! ### Phases -/

/-- Starts a phase with its first packet. -/
def beginPhase (c : Client) (phase : Phase) (p : Packet) (now : Nat) : Client × List Action :=
  ({ c with
      phase
      attempts := 1
      failed := false
      deadline := some (now + c.retransmitMs)
      outstanding := some p }, [.send p])

/-- Looks for servers. -/
def discover (c : Client) (now : Nat) (fresh : UInt32) : Client × List Action :=
  let c := { c with xid := fresh }
  c.beginPhase .discovering (Packet.ofClient .discover c.xid c.mac) now

/-- The packet that asks a server for an address. -/
def requestPacket (c : Client) (addr serverId : Ipv4) : Packet :=
  let p := Packet.ofClient .request c.xid c.mac
  { p with options := { p.options with requestedAddr := some addr, serverId := some serverId } }

/-- Asks a server for an address. -/
def request (c : Client) (addr serverId : Ipv4) (now : Nat) (fresh : UInt32) :
    Client × List Action :=
  let c := { c with xid := fresh }
  c.beginPhase .requesting (c.requestPacket addr serverId) now

/-- Gives up the lease, and the interface's address with it, if there is one. -/
def dropLease (c : Client) : Client × List Action :=
  ({ c with lease := none }, if c.lease.isSome then [.clearAddress c.ifindex] else [])

/-- The lease that an ACK grants. -/
def leaseOf (ack : Packet) : Lease :=
  { addr := ack.yiaddr
    subnetMask := ack.options.subnetMask.getD fallbackMask
    gateway := ack.options.routers.head?
    nameservers := ack.options.dnsServers.take maxNameservers
    leaseSecs := ack.options.leaseSecs.getD fallbackLeaseSecs
    serverId := ack.namedServer.getD .zero }

/-- How long to wait before renewing a lease, in milliseconds: half its time, at least a second. -/
def renewalMs (lease : Lease) : Nat := max (lease.leaseSecs.toNat / 2) 1 * 1000

/-- Takes the lease that an ACK grants. -/
def configure (c : Client) (ack : Packet) (now : Nat) : Client × List Action :=
  let lease := leaseOf ack
  ({ c with
      phase := .configured
      outstanding := none
      attempts := 0
      deadline := some (now + renewalMs lease)
      lease := some lease },
    [.configure c.ifindex lease.addr lease.subnetMask.prefixLength lease.gateway])

/-! ### Inputs -/

/-- Begins to acquire an address; only an idle client does. -/
def start (c : Client) (ifindex : UInt32) (mac : Mac) (now : Nat) (fresh : UInt32) :
    Client × List Action :=
  if c.phase = .idle then { c with ifindex, mac }.discover now fresh else (c, [])

/-- Gives everything up and goes idle; the address is cleared once. -/
def stop (c : Client) : Client × List Action :=
  if c.phase = .idle then (c, [])
  else
    ({ c with
        phase := .idle
        lease := none
        outstanding := none
        deadline := none
        failed := false }, [.clearAddress c.ifindex])

/-- Records that an action could not be performed. -/
def reportFailure (c : Client) : Client := { c with failed := true }

/-- Handles a packet received at a time. Only a reply to the current transaction counts. -/
def handlePacket (c : Client) (p : Packet) (now : Nat) (fresh : UInt32) : Client × List Action :=
  if p.direction = .reply ∧ p.xid = c.xid ∧ p.chaddr = c.mac then
    match c.phase, p.options.kind with
    | .discovering, some .offer =>
      match p.namedServer with
      | some server => c.request p.yiaddr server now fresh
      | none => (c, [])
    | .requesting, some .ack => c.configure p now
    | .requesting, some .nak =>
      let (c, cleared) := c.dropLease
      let (c, sent) := c.discover now fresh
      (c, cleared ++ sent)
    | _, _ => (c, [])
  else (c, [])

/-- Sends the packet of the current phase again, or records that the attempts are used up. -/
def retry (c : Client) (now : Nat) : Client × List Action :=
  if c.maxAttempts ≤ c.attempts then { c with failed := true, deadline := none }.dropLease
  else
    ({ c with attempts := c.attempts + 1, deadline := some (now + c.retransmitMs) },
      (c.outstanding.map Action.send).toList)

/-- Does what is due at a time. -/
def handleTimeout (c : Client) (now : Nat) (fresh : UInt32) : Client × List Action :=
  if c.deadline.any (· ≤ now) then
    match c.phase with
    | .idle => (c, [])
    | .configured =>
      match c.lease with
      | some lease => c.request lease.addr lease.serverId now fresh
      | none => (c, [])
    | .discovering | .requesting => c.retry now
  else (c, [])

end Client

/-! ### Status -/

/-- The part of a lease that a status shows. -/
structure LeaseStatus where
  ip : Ipv4
  subnetMask : Ipv4
  gateway : Option Ipv4
  nameservers : List Ipv4
  deriving DecidableEq, Repr, Inhabited

/-- What a client tells about itself. -/
structure ClientStatus where
  phase : Phase := .idle
  failed : Bool := false
  lease : Option LeaseStatus := none
  deriving DecidableEq, Repr, Inhabited

/-- The shown part of a lease. -/
def Lease.status (l : Lease) : LeaseStatus :=
  ⟨l.addr, l.subnetMask, l.gateway, l.nameservers⟩

/-- The status of a client. -/
def Client.status (c : Client) : ClientStatus :=
  ⟨c.phase, c.failed, c.lease.map Lease.status⟩

end WifiStation.Dhcp
