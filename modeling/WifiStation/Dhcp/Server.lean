import WifiStation.Dhcp.Lease
import WifiStation.Dhcp.Packet

/-!
# WifiStation.Dhcp.Server

The server of an access point: it answers DISCOVER with an OFFER and REQUEST with an ACK or a NAK,
and frees a binding on RELEASE and DECLINE.

Design points:

* `Server.handle` is one step: a packet and the time give the next state and at most one answer.
* A packet that is no request is ignored before anything else; every other packet first ends the
  bindings whose time is over.
* A client that has a binding is offered its address again, and an offer never shortens it.
-/

namespace WifiStation.Dhcp

open WifiStation.Net

/-- How long an offered address is held for a REQUEST, in milliseconds. -/
def offerHoldMs : Nat := 60000

/-- A server: its pool and its bindings. -/
structure Server where
  pool : Pool
  table : LeaseTable

namespace Server

/-- A server that has made no binding. -/
def ofPool (pool : Pool) : Server := ⟨pool, .empty⟩

/-- An answer that gives an address, with everything a client needs to use it. -/
def grant (s : Server) (p : Packet) (kind : Kind) (addr : Ipv4) : Packet :=
  let r := Packet.replyTo p kind s.pool.serverId
  { r with
    yiaddr := addr
    options := { r.options with
      subnetMask := some s.pool.subnetMask
      routers := [s.pool.gateway]
      leaseSecs := some s.pool.advertisedSecs } }

/-- A refusal: it names the server in the option only. -/
def refuse (s : Server) (p : Packet) : Packet :=
  { Packet.replyTo p .nak s.pool.serverId with siaddr := .zero }

/-- What a DISCOVER is offered: the client's own address, for no shorter than it has it, or the
first free address of the pool. -/
def proposal (s : Server) (p : Packet) (now : Nat) : Option Binding :=
  match s.table.get? p.chaddr with
  | some b => some ⟨b.addr, max b.expiresAt (now + offerHoldMs)⟩
  | none => (s.table.firstFree s.pool).map fun a => ⟨a, now + offerHoldMs⟩

/-- Answers a DISCOVER; an exhausted pool gives no answer. -/
def offer (s : Server) (p : Packet) (now : Nat) : Server × Option Packet :=
  match s.proposal p now with
  | none => (s, none)
  | some b =>
    ({ s with table := s.table.bind p.chaddr b.addr b.expiresAt }, some (s.grant p .offer b.addr))

/-- Whether a client may have an address: it is its own, or it has none and the address is a free
one of the pool. -/
def mayGrant (s : Server) (client : Mac) (addr : Ipv4) : Bool :=
  match s.table.get? client with
  | some b => addr == b.addr
  | none => s.pool.contains addr && (s.table.holder addr).isNone

/-- Answers a REQUEST. One that names another server ends the binding without an answer. -/
def acknowledge (s : Server) (p : Packet) (now : Nat) : Server × Option Packet :=
  if p.options.serverId.any (· ≠ s.pool.serverId) then
    ({ s with table := (s.table.release p.chaddr).1 }, none)
  else match p.wantedAddr.filter (s.mayGrant p.chaddr) with
    | some addr =>
      ({ s with table := s.table.bind p.chaddr addr (now + s.pool.leaseMs) },
        some (s.grant p .ack addr))
    | none => (s, some (s.refuse p))

/-- Handles one packet received at a time. -/
def handle (s : Server) (p : Packet) (now : Nat) : Server × Option Packet :=
  match p.direction with
  | .reply => (s, none)
  | .request =>
    let s := { s with table := (s.table.expire now).1 }
    match p.options.kind with
    | some .discover => s.offer p now
    | some .request => s.acknowledge p now
    | some .release | some .decline => ({ s with table := (s.table.release p.chaddr).1 }, none)
    | _ => (s, none)

/-- Handles packets one after the other and collects the answers, one place per packet. -/
def run (s : Server) : List (Packet × Nat) → Server × List (Option Packet)
  | [] => (s, [])
  | (p, now) :: rest =>
    let step := s.handle p now
    let others := run step.1 rest
    (others.1, step.2 :: others.2)

end Server

end WifiStation.Dhcp
