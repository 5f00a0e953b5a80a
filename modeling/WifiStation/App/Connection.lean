import WifiStation.App.Frame
import WifiStation.App.Health
import WifiStation.Watch

/-!
# WifiStation.App.Connection

The daemon's end of a connection to an app.

Two things go on at once: messages of the app are read, and the state of the network is pushed,
when the connection is made and each time it has changed. Which of them comes first when both can
go on is not fixed, so a connection is described by single steps:

* `Connection.read` takes the next complete message; if there is none and the app has closed its
  end, the connection ends.
* `Connection.push` sends the newest state if it was not sent yet; if the app has closed its end,
  that fails and ends the connection, with whatever is still unread.

The state may have lost its source; then nothing is pushed any more, but messages are still read.
-/

namespace WifiStation.App

open WifiStation

/-- The daemon's end of a connection. -/
structure Connection where
  /-- What the app has written and the daemon has not read. -/
  unread : List UInt8 := []
  /-- Whether the app has closed its end. -/
  closedByApp : Bool := false
  /-- Which version of the state was pushed last. -/
  pushed : Option Nat := none
  /-- Whether the connection is still served. -/
  isOpen : Bool := true
  deriving DecidableEq, Repr, Inhabited

namespace Connection

/-- The app writes. -/
def write (c : Connection) (bytes : List UInt8) : Connection :=
  if c.closedByApp then c else { c with unread := c.unread ++ bytes }

/-- The app closes its end. -/
def close (c : Connection) : Connection := { c with closedByApp := true }

/-- Reads the next message into the health of the apps. -/
def read (c : Connection) (apps : Health) : Connection × Health :=
  if !c.isOpen then (c, apps)
  else match Frame.take? c.unread with
    | some (frame, rest) => ({ c with unread := rest }, apps.applyMessage frame.message)
    | none => (if c.closedByApp then { c with isOpen := false } else c, apps)

/-- Whether there is a state to push. -/
def canPush (c : Connection) (network : Watch NetworkState) : Bool :=
  c.isOpen && (match c.pushed with
    | none => true
    | some version => network.poll version = .changed)

/-- Pushes the newest state, if there is one to push. -/
def push (c : Connection) (network : Watch NetworkState) : Connection × List UInt8 :=
  if c.canPush network then
    if c.closedByApp then ({ c with isOpen := false }, [])
    else ({ c with pushed := some network.version }, encodeNetwork network.value)
  else (c, [])

/-- Reads all messages that are complete. The first argument bounds their number. -/
def readAll : Nat → Connection → Health → Connection × Health
  | 0, c, apps => (c, apps)
  | fuel + 1, c, apps =>
    let next := c.read apps
    if next.1 = c then next else readAll fuel next.1 next.2

/-- Does all there is to do: reads what can be read, then pushes. -/
def settle (c : Connection) (apps : Health) (network : Watch NetworkState) :
    Connection × Health × List UInt8 :=
  let read := readAll (c.unread.length + 2) c apps
  let pushed := read.1.push network
  (pushed.1, read.2, pushed.2)

end Connection

end WifiStation.App
