import WifiStation.App.Connection
import WifiStation.Place

/-!
# WifiStation.App.Socket

The control socket: the path that apps connect to, and the connections.

* `bindFault?` says why the socket cannot be made. A file that is left at its path is removed
  before; a directory cannot be.
* A shutdown ends all connections and removes the socket, after which nobody can connect.
-/

namespace WifiStation.App

open WifiStation

/-- Why a socket cannot be made at a path. -/
inductive BindFault where
  /-- A directory is in its place. -/
  | isADirectory
  /-- The path does not fit into an address. -/
  | invalidInput
  deriving DecidableEq, Repr, Inhabited

/-- The bytes of a path that do not fit into an address any more. -/
def pathLimit : Nat := 108

/-- Why the socket cannot be made, with what stands at its path. -/
def bindFault? (path : String) (place : Place) : Option BindFault :=
  match place with
  | .directory => some .isADirectory
  | _ =>
    if path.utf8ByteSize ≥ pathLimit || path.toList.contains '\x00' then some .invalidInput else none

/-- The socket with its connections. -/
structure Socket where
  apps : Health
  network : Watch NetworkState
  connections : List Connection := []
  running : Bool := true
  deriving Repr

/-- Why an app's action fails. -/
inductive SocketFault where
  /-- There is no socket. -/
  | notFound
  /-- Nobody is at the other end. -/
  | brokenPipe
  deriving DecidableEq, Repr, Inhabited

namespace Socket

/-- An app connects. -/
def connect (s : Socket) : Except SocketFault Socket :=
  if s.running then .ok { s with connections := s.connections ++ [{}] } else .error .notFound

/-- An app writes to the connection of an index. -/
def send (s : Socket) (index : Nat) (bytes : List UInt8) : Except SocketFault Socket :=
  match s.connections[index]? with
  | none => .ok s
  | some c =>
    if c.closedByApp then .ok s
    else if c.isOpen then .ok { s with connections := s.connections.set index (c.write bytes) }
    else .error .brokenPipe

/-- An app closes the connection of an index. -/
def close (s : Socket) (index : Nat) : Socket :=
  { s with connections := s.connections.modify index Connection.close }

/-- The state of the network changes, as long as it has a source. -/
def publish (s : Socket) (state : NetworkState) : Socket :=
  if s.network.isOpen then { s with network := s.network.write state } else s

/-- Ends all connections and removes the socket. -/
def shutdown (s : Socket) : Socket :=
  { s with running := false, connections := s.connections.map fun c => { c with isOpen := false } }

/-- Does all there is to do on some connections, one after the other; gives what each one gets. -/
def settleAll (network : Watch NetworkState) :
    List Connection → Health → List (Connection × List UInt8) × Health
  | [], apps => ([], apps)
  | c :: rest, apps =>
    let first := c.settle apps network
    let others := settleAll network rest first.2.1
    ((first.1, first.2.2) :: others.1, others.2)

/-- Does all there is to do; gives what each connection gets. -/
def settle (s : Socket) : Socket × List (List UInt8) :=
  let settled := settleAll s.network s.connections s.apps
  ({ s with connections := settled.1.map Prod.fst, apps := settled.2 }, settled.1.map Prod.snd)

end Socket

end WifiStation.App
