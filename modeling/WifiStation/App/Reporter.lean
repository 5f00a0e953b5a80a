import WifiStation.App.Frame
import WifiStation.App.Tracker

/-!
# WifiStation.App.Reporter

An app's end of the control socket.

A `Reporter` tells the daemon how its app is, and hears of the network as long as the connection is
there. What happens is told as events, which `Backlog` keeps up to a limit for someone who reads
them late. A daemon that goes away is noticed by reading only, so the reporter stays connected
until it disconnects itself; that gives no event.
-/

namespace WifiStation.App

/-- What happens to a connection, and what is heard over it. -/
inductive ReporterEvent where
  | connecting
  | connected
  | connectFailed
  /-- The daemon is gone. -/
  | disconnected
  | network (event : NetworkEvent)
  deriving DecidableEq, Repr, Inhabited

/-- Why the reporter cannot do what it is to do. -/
inductive ReporterError where
  | connect (path reason : String)
  | alreadyConnected
  | write (reason : String)
  deriving DecidableEq, Repr, Inhabited

/-- The error as text. -/
def ReporterError.message : ReporterError → String
  | connect path reason => s!"failed to connect to {path}: {reason}"
  | alreadyConnected => "already connected"
  | write reason => s!"control socket write failed: {reason}"

/-! ### Events kept for later -/

/-- Events that were not read yet. -/
structure Backlog where
  events : List ReporterEvent := []
  deriving Repr

namespace Backlog

/-- How many events are kept. -/
def limit : Nat := 64

/-- More events have happened. -/
def add (b : Backlog) (more : List ReporterEvent) : Backlog := ⟨b.events ++ more⟩

/-- How many events are lost, and those that are kept. -/
def read (b : Backlog) : Nat × List ReporterEvent :=
  let lost := b.events.length - limit
  (lost, b.events.drop lost)

end Backlog

/-! ### The reporter -/

/-- An app's end of the control socket. -/
structure Reporter where
  /-- The number of the app. -/
  app : UInt32
  /-- Whether there is a connection to write to. -/
  connected : Bool := false
  /-- Whether the daemon is listened to. -/
  listening : Bool := false
  /-- What was received of a message that is not complete. -/
  partly : List UInt8 := []
  /-- What this connection has told. -/
  tracker : Tracker := {}
  /-- The last state of the network that any connection has told. -/
  network : NetworkState := {}
  deriving Repr

namespace Reporter

/-- Connects; `refusal` is why the daemon cannot be reached. -/
def connect (r : Reporter) (path : String) (refusal : Option String) :
    Except ReporterError Unit × Reporter × List ReporterEvent :=
  if r.connected then (.error .alreadyConnected, r, [])
  else match refusal with
    | some reason => (.error (.connect path reason), r, [.connecting, .connectFailed])
    | none =>
      (.ok (), { r with connected := true, listening := true, partly := [], tracker := {} },
        [.connecting, .connected])

/-- Takes the messages of frames into account. -/
def hear (r : Reporter) : List Frame → Reporter × List ReporterEvent
  | [] => (r, [])
  | frame :: rest =>
    match frame.message with
    | some (.network state) =>
      let (tracker, event) := r.tracker.update state
      let others := hear { r with tracker, network := tracker.current } rest
      (others.1, (event.map .network).toList ++ others.2)
    | _ => hear r rest

/-- The daemon sends. -/
def receive (r : Reporter) (bytes : List UInt8) : Reporter × List ReporterEvent :=
  if r.listening then
    let (frames, left) := Frame.takeAll (r.partly ++ bytes)
    hear { r with partly := left } frames
  else (r, [])

/-- The daemon goes away. -/
def hangup (r : Reporter) : Reporter × List ReporterEvent :=
  if r.listening then ({ r with listening := false, partly := [] }, [.disconnected]) else (r, [])

/-- Gives up the connection. -/
def disconnect (r : Reporter) : Reporter :=
  { r with connected := false, listening := false, partly := [] }

/-- The bytes that report the state of the app. -/
def appStateBytes (r : Reporter) (state error : UInt32) : List UInt8 :=
  encodeMessage .appStateUpdate (appStateFields r.app state error)

/-- The state that reports whether the app can reach what it needs. -/
def connectivityState (reached : Bool) : StateCode := if reached then .ok else .err

/-- The bytes that report whether the app can reach what it needs. -/
def connectivityBytes (r : Reporter) (reached : Bool) : List UInt8 :=
  encodeMessage .appStateUpdate (connectivityFields r.app (connectivityState reached).code 0)

/-- Sends bytes; `gone` says that nobody is at the other end. -/
def send (bytes : List UInt8) (gone : Bool) : Except ReporterError (List UInt8) :=
  if gone then .error (.write "Broken pipe (os error 32)") else .ok bytes

end Reporter

end WifiStation.App
