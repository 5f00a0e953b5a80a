import WifiStation.Supplicant.Channel

/-!
# WifiStation.Supplicant.Script

Supplicants that follow a script, for trying out dialogues without a radio.

* `Script` answers commands one after the other from a list, and fails where the list says so or
  has ended. It keeps the commands it got.
* `Peer` sits at the other end of the sockets. It answers the n-th datagram, from whichever socket,
  with the n-th list of datagrams, and can send more to the socket that has written last.
-/

namespace WifiStation.Supplicant

/-! ### Scripts -/

/-- What is left of the replies, and the commands that came. -/
structure Script where
  /-- A reply for each command to come; `none` is a failure. -/
  replies : List (Option String)
  commands : List String := []
  deriving Repr

/-- Answers a command. -/
def Script.answer (s : Script) (command : String) : Outcome × Script :=
  let outcome : Outcome := match s.replies with
    | [] => .error (commandFailure command "script exhausted")
    | none :: _ => .error (commandFailure command "scripted failure")
    | some reply :: _ => .ok reply
  (outcome, { replies := s.replies.drop 1, commands := s.commands ++ [command] })

/-! ### Peers -/

/-- The sockets that a datagram can come from. -/
inductive Writer where
  | control
  | events
  deriving DecidableEq, Repr

/-- The other end of the sockets. -/
structure Peer where
  /-- The answers to the datagrams to come. -/
  script : List (List Datagram)
  /-- The socket that has written last. -/
  last : Option Writer := none
  /-- The texts that came. -/
  received : List String := []
  deriving Repr

/-- Takes a text and answers it. -/
def Peer.hear (p : Peer) (writer : Writer) (text : String) : List Datagram × Peer :=
  (p.script.headD [],
    { script := p.script.drop 1, last := some writer, received := p.received ++ [text] })

/-- Both sockets, as far as they are open, and their other end. -/
structure Sockets where
  peer : Peer
  control : Option ControlChannel := none
  events : Option EventChannel := none
  deriving Repr

namespace Sockets

/-- Sends a command over an open socket and waits for the reply. -/
def request (s : Sockets) (command : String) : Outcome × Sockets :=
  match s.control with
  | none => (.error .notStarted, s)
  | some c =>
    let (replies, peer) := s.peer.hear .control command
    let (outcome, c) := c.request command replies
    (outcome, { s with peer, control := some c })

/-- Asks not to be told of events any more, and closes the socket. -/
def detach (s : Sockets) : Sockets :=
  match s.events with
  | none => s
  | some _ => { s with peer := (s.peer.hear .events detachCommand).2, events := none }

/-- Asks to be told of events. If that is granted, a socket that was open is closed. -/
def attach (s : Sockets) : Except SupplicantError Unit × Sockets :=
  let (replies, peer) := s.peer.hear .events attachCommand
  let s := { s with peer }
  match EventChannel.attach replies with
  | .error e => (.error e, s)
  | .ok c => (.ok (), { s.detach with events := some c })

/-- The next record, if one has arrived. -/
def next? (s : Sockets) : Option (String × Sockets) :=
  (s.events.bind EventChannel.next?).map fun (record, c) => (record, { s with events := some c })

/-- The other end sends a datagram to the socket that has written last. -/
def push (s : Sockets) (d : Datagram) : Sockets :=
  match s.peer.last with
  | some .control => { s with control := s.control.map fun c => (c.step (.arrive d)).1 }
  | some .events => { s with events := s.events.map (·.arrive d) }
  | none => s

end Sockets

end WifiStation.Supplicant
