import WifiStation.Supplicant.Dialogue
import WifiStation.Text.Duration
import WifiStation.Text.Utf8

/-!
# WifiStation.Supplicant.Channel

The two ways to the supplicant, each a socket for datagrams.

* A `ControlChannel` sends commands and waits for replies, one at a time. It is described by what
  happens at it: a command is sent, a datagram arrives, time runs out. What has arrived before a
  command is sent is thrown away; a datagram that starts like an event is no reply.
* An `EventChannel` takes whatever arrives once the supplicant has agreed to send events.

A datagram is cut at 4096 bytes.
-/

namespace WifiStation.Supplicant

open WifiStation.Text

/-- The bytes of a datagram. -/
abbrev Datagram := List UInt8

/-- The most bytes of a datagram that are taken. -/
def maxDatagramBytes : Nat := 4096

/-- The text of a datagram. -/
def Datagram.text (d : Datagram) : String := String.ofList (Utf8.decodeLossy (d.take maxDatagramBytes))

/-- Whether a text is an event and no reply. -/
def isEventText (text : String) : Bool := text.toList.head? = some '<'

/-! ### Commands and replies -/

/-- The socket that commands are sent over. -/
structure ControlChannel where
  /-- How long a reply may take. -/
  timeoutMs : Nat
  /-- What has arrived and was not read. -/
  unread : List Datagram := []
  /-- The command that waits for its reply. -/
  waiting : Option String := none
  deriving Repr

/-- What happens at the socket. -/
inductive ControlInput where
  | send (command : String)
  | arrive (d : Datagram)
  | timeout
  deriving Repr

namespace ControlChannel

/-- Takes notice of what happens, and gives the outcome of a command that this ends. -/
def step (c : ControlChannel) : ControlInput → ControlChannel × Option Outcome
  | .send command => ({ c with unread := [], waiting := some command }, none)
  | .arrive d =>
    match c.waiting with
    | none => ({ c with unread := c.unread ++ [d] }, none)
    | some _ =>
      if isEventText d.text then (c, none)
      else ({ c with waiting := none }, some (.ok d.text))
  | .timeout =>
    match c.waiting with
    | none => (c, none)
    | some command =>
      ({ c with waiting := none },
        some (.error (commandFailure command s!"no reply within {duration c.timeoutMs}")))

/-- Takes notice of arrivals one after the other; the outcome is that of the first that ends the
command. -/
def arrivals (c : ControlChannel) : List Datagram → ControlChannel × Option Outcome
  | [] => (c, none)
  | d :: rest =>
    let first := c.step (.arrive d)
    let others := arrivals first.1 rest
    (others.1, first.2.or others.2)

/-- Sends a command, to which datagrams arrive before the time is up. -/
def request (c : ControlChannel) (command : String) (arriving : List Datagram) :
    Outcome × ControlChannel :=
  let heard := (c.step (.send command)).1.arrivals arriving
  match heard.2 with
  | some outcome => (outcome, heard.1)
  | none =>
    let late := heard.1.step .timeout
    (late.2.getD (.error .channelClosed), late.1)

end ControlChannel

/-! ### Events -/

/-- The socket that events arrive at. -/
structure EventChannel where
  /-- What has arrived and was not read. -/
  unread : List Datagram := []
  deriving Repr

/-- What is sent to be told of events. -/
def attachCommand : String := "ATTACH"

/-- What is sent to be told no more. -/
def detachCommand : String := "DETACH"

namespace EventChannel

/-- The channel that opens on a reply; what arrives behind the reply is the first event. -/
def attach : List Datagram → Except SupplicantError EventChannel
  | [] => .error (.startup s!"no reply to {attachCommand}")
  | reply :: rest =>
    let text := String.ofList (trimEnd reply.text.toList)
    if text = "OK" then .ok ⟨rest⟩
    else .error (.startup (s!"{attachCommand} refused: " ++ quote text))

/-- A datagram arrives. -/
def arrive (c : EventChannel) (d : Datagram) : EventChannel := ⟨c.unread ++ [d]⟩

/-- The next record, if there is one. -/
def next? (c : EventChannel) : Option (String × EventChannel) :=
  match c.unread with
  | [] => none
  | d :: rest => some (d.text, ⟨rest⟩)

end EventChannel

end WifiStation.Supplicant
