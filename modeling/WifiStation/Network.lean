import WifiStation.App.Message
import WifiStation.Dhcp.Client
import WifiStation.Link
import WifiStation.Watch

/-!
# WifiStation.Network

The state of the network that apps are told: the link and the address configuration, each as a pair
of a code and an error number.

`Publisher` follows the sources and publishes `networkState` of their newest values; it publishes
only a state that differs from the one before. It ends when its source of link states is gone, and
goes on without address configuration when that source is gone.
-/

namespace WifiStation

open WifiStation.App WifiStation.Dhcp

/-- The pair of a link. -/
def linkPair (link : LinkState) : StatePair :=
  .of (if link.connected then .active else .inactive) (if link.lastError.isSome then 1 else 0)

/-- The pair of address configuration; unknown where there is none. -/
def dhcpPair : Option ClientStatus → StatePair
  | none => {}
  | some s =>
    if s.failed then .of .err 1
    else if s.phase = .configured then .of .active 0
    else .of .inactive 0

/-- The state of the network. -/
def networkState (link : LinkState) (dhcp : Option ClientStatus) : NetworkState :=
  ⟨linkPair link, dhcpPair dhcp⟩

/-! ### The sources and their publisher -/

/-- The sources of the network's state. -/
structure Sources where
  link : Watch LinkState
  dhcp : Option (Watch ClientStatus)

/-- Publishes the state of the network. -/
structure Publisher where
  /-- The version of the link state it last looked at. -/
  linkSeen : Nat := 0
  /-- The version of the client's status it last looked at; `none` once it has no such source. -/
  dhcpSeen : Option Nat
  network : Watch NetworkState
  running : Bool := true

namespace Publisher

/-- A publisher of the current state of its sources. -/
def ofSources (s : Sources) : Publisher :=
  { linkSeen := s.link.version
    dhcpSeen := s.dhcp.map Watch.version
    network := { value := networkState s.link.value (s.dhcp.map Watch.value) } }

/-- The client's status as the publisher sees it. -/
def dhcpStatus (p : Publisher) (s : Sources) : Option ClientStatus :=
  if p.dhcpSeen.isSome then s.dhcp.map Watch.value else none

/-- Looks at both sources and publishes. -/
def publish (p : Publisher) (s : Sources) : Publisher :=
  { p with
    linkSeen := s.link.version
    dhcpSeen := p.dhcpSeen.bind fun _ => s.dhcp.map Watch.version
    network := p.network.writeIfNew (networkState s.link.value (p.dhcpStatus s)) }

/-- Ends. -/
def finish (p : Publisher) : Publisher := { p with running := false, network := p.network.close }

/-- What the publisher finds at its second source. -/
def pollDhcp (p : Publisher) (s : Sources) : Watch.Poll :=
  match p.dhcpSeen, s.dhcp with
  | some seen, some w => w.poll seen
  | _, _ => .pending

/-- Takes the change of the link state that it finds, if it finds one. -/
def stepLink (p : Publisher) (s : Sources) : Option Publisher :=
  if p.running then
    match s.link.poll p.linkSeen with
    | .changed => some (p.publish s)
    | .closed => some p.finish
    | .pending => none
  else none

/-- Takes the change of the client's status that it finds, if it finds one. -/
def stepDhcp (p : Publisher) (s : Sources) : Option Publisher :=
  if p.running then
    match p.pollDhcp s with
    | .changed => some (p.publish s)
    | .closed => some ({ p with dhcpSeen := none }.publish s)
    | .pending => none
  else none

/-- Goes on until there is nothing to do: after looking at both sources, at most their ends are
left to be noticed. -/
def settle (p : Publisher) (s : Sources) : Publisher :=
  let p := (p.stepLink s).getD p
  let p := (p.stepDhcp s).getD p
  let p := (p.stepDhcp s).getD p
  (p.stepLink s).getD p

end Publisher

end WifiStation
