import WifiStation.Dhcp.Client
import WifiStation.Dhcp.Server

/-!
# WifiStation.Dhcp.Exchange

A client and a server in conversation: what the client sends goes to the server, the answer goes
back to the client, and what the client then asks for follows, until there is nothing left to do.

`Exchange.rounds` gives what can be seen of it, in order. On a network that loses packets, the
client's are sent but not heard.
-/

namespace WifiStation.Dhcp

open WifiStation.Net

/-- What can be seen of a conversation. -/
inductive Sighting where
  | sent (packet : Packet)
  | answered (packet : Packet)
  | configured (ifindex : UInt32) (addr : Ipv4) (prefixLength : Nat) (gateway : Option Ipv4)
  | cleared (ifindex : UInt32)
  deriving DecidableEq, Repr

/-- Where a conversation has got to. -/
structure Exchange where
  server : Server
  client : Client
  /-- How many transaction ids the client could have picked. -/
  picked : Nat
  /-- What was seen, the newest first. -/
  seen : List Sighting := []
  /-- What the client asks for next, the newest first. -/
  next : List Action := []

namespace Exchange

/-- Something is seen. -/
def see (x : Exchange) (s : Sighting) : Exchange := { x with seen := s :: x.seen }

/-- Carries out an action at a time, with the ids that the client picks. -/
def perform (fresh : Nat → UInt32) (now : Nat) (lost : Bool) (x : Exchange) : Action → Exchange
  | .configure ifindex addr prefixLength gateway =>
    x.see (.configured ifindex addr prefixLength gateway)
  | .clearAddress ifindex => x.see (.cleared ifindex)
  | .send p =>
    let x := x.see (.sent p)
    if lost then x
    else
      let (server, answer) := x.server.handle p now
      match answer with
      | none => { x with server }
      | some q =>
        let (client, actions) := x.client.handlePacket q now (fresh x.picked)
        { x with
          server, client
          picked := x.picked + 1
          seen := .answered q :: x.seen
          next := actions.reverse ++ x.next }

/-- Carries out what the client asks for, and what it then asks for, for some rounds. -/
def rounds (fresh : Nat → UInt32) (now : Nat) (lost : Bool) : Nat → Exchange → Exchange
  | 0, x => x
  | n + 1, x =>
    let asked := x.next.reverse
    let x := asked.foldl (perform fresh now lost) { x with next := [] }
    if x.next.isEmpty then x else rounds fresh now lost n x

end Exchange

end WifiStation.Dhcp
