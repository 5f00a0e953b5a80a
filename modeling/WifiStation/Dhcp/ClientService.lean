import WifiStation.Dhcp.Status
import WifiStation.Dhcp.Transport
import WifiStation.Link
import WifiStation.Watch

/-!
# WifiStation.Dhcp.ClientService

A client at work on an interface: it follows the link, performs the client's actions, and publishes
the client's status.

Design points:

* `ClientService.step` takes one input and says which effects it attempts, in order. Whether an
  attempt succeeds is an argument of the step, so that a statement about all steps covers every
  pattern of failures.
* An action that fails is reported to the client and shows in its status. A default route is
  attempted only after the address of the same lease has been set.
* The service ends on shutdown, when its source of link states is gone, or when the network fails;
  it then stops the client once. After that nothing has an effect.
-/

namespace WifiStation.Dhcp

open WifiStation.Net

/-- What the service does to the outside. -/
inductive Effect where
  | send (packet : Packet)
  | setAddress (ifindex : UInt32) (addr : Ipv4) (prefixLength : Nat)
  | setDefaultRoute (ifindex : UInt32) (gateway : Ipv4)
  | clearAddress (ifindex : UInt32)
  deriving DecidableEq, Repr

/-- What can happen to the service. -/
inductive ServiceInput where
  /-- It looks at the state of the link. -/
  | link (connected : Bool)
  /-- The source of link states is gone. -/
  | linkClosed
  /-- A datagram arrives. -/
  | received (result : Except TransportError Packet)
  /-- Time passes; what is due is done. -/
  | timer
  | shutdown

/-- The service. -/
structure ClientService where
  client : Client
  ifindex : UInt32
  mac : Mac
  /-- The last link state it looked at. -/
  connected : Bool := false
  running : Bool := true
  status : Watch ClientStatus

namespace ClientService

/-- A service with an idle client. -/
def new (client : Client) (ifindex : UInt32) (mac : Mac) : ClientService :=
  { client, ifindex, mac, status := { value := client.status } }

/-- The effects of an action as far as they are attempted, and whether they all succeeded. -/
def perform (ok : Effect → Bool) : Action → List Effect × Bool
  | .send p => ([.send p], ok (.send p))
  | .configure ifindex addr prefixLength gateway =>
    let set := Effect.setAddress ifindex addr prefixLength
    if ok set then
      match gateway with
      | some g =>
        let route := Effect.setDefaultRoute ifindex g
        ([set, route], ok route)
      | none => ([set], true)
    else ([set], false)
  | .clearAddress ifindex => ([.clearAddress ifindex], ok (.clearAddress ifindex))

/-- Performs actions in order; a failure is reported to the client. -/
def performAll (ok : Effect → Bool) (c : Client) : List Action → Client × List Effect
  | [] => (c, [])
  | a :: rest =>
    let done := perform ok a
    let c := if done.2 then c else c.reportFailure
    let others := performAll ok c rest
    (others.1, done.1 ++ others.2)

/-- Performs what a client asks for and publishes its status. -/
def apply (s : ClientService) (ok : Effect → Bool) (asked : Client × List Action) :
    ClientService × List Effect :=
  let done := performAll ok asked.1 asked.2
  ({ s with client := done.1, status := s.status.writeIfNew done.1.status }, done.2)

/-- Stops the client and ends. -/
def finish (s : ClientService) (ok : Effect → Bool) : ClientService × List Effect :=
  let stopped := s.apply ok s.client.stop
  ({ stopped.1 with running := false, status := stopped.1.status.close }, stopped.2)

/-- Looks at the state of the link: the client is started when it comes up and stopped when it
goes down. -/
def follow (s : ClientService) (connected : Bool) (now : Nat) (fresh : UInt32)
    (ok : Effect → Bool) : ClientService × List Effect :=
  if connected = s.connected then (s, [])
  else
    let s := { s with connected }
    if connected then s.apply ok (s.client.start s.ifindex s.mac now fresh)
    else s.apply ok s.client.stop

/-- One step at a time, with the transaction id to use if one is needed. -/
def step (s : ClientService) (input : ServiceInput) (now : Nat) (fresh : UInt32)
    (ok : Effect → Bool) : ClientService × List Effect :=
  if s.running then
    match input with
    | .link connected => s.follow connected now fresh ok
    | .linkClosed | .shutdown => s.finish ok
    | .received (.ok p) => s.apply ok (s.client.handlePacket p now fresh)
    | .received (.error (.packet _)) => (s, [])
    | .received (.error _) => s.finish ok
    | .timer => s.apply ok (s.client.handleTimeout now fresh)
  else (s, [])

/-- Whether something is due at a time. -/
def isDue (s : ClientService) (now : Nat) : Bool :=
  s.running && s.client.deadline.any (· ≤ now)

end ClientService

end WifiStation.Dhcp
