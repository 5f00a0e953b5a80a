import WifiStation.Settings.Basic
import WifiStation.Supplicant.Channel

/-!
# WifiStation.Supplicant.Launch

Starting the supplicant: make the directory of its sockets, run the program, wait for its control
socket, open both channels.

`Launch` holds what comes of each step, and `Launch.result` is the first failure in the order of
the steps. A program that ends before its socket is there has failed; whether it still runs is not
looked at once the socket is there.
-/

namespace WifiStation.Supplicant

open WifiStation WifiStation.Text

/-- How the wait for the control socket ends. -/
inductive SocketWait where
  | appeared
  /-- The program has ended before, with a status. -/
  | exited (status : String)
  | timedOut
  deriving DecidableEq, Repr

/-- What comes of each step. -/
structure Launch where
  /-- Why the directory cannot be made. -/
  directoryFault : Option String := none
  /-- Why the program cannot be run. -/
  spawnFault : Option String := none
  wait : SocketWait := .appeared
  /-- Why a socket cannot be connected. -/
  connectFault : Option String := none
  /-- What arrives in answer to the request for events, before the time is up. -/
  attachReplies : List Datagram := []
  deriving Repr

/-- The path of the control socket. -/
def socketPath (s : SupplicantSettings) : String := s!"{s.socketDir}/{s.interface}"

/-- The failure to connect a socket. -/
def connectFailure (path reason : String) : SupplicantError :=
  .startup s!"connect {path}: {reason}"

/-- Both channels, or why there are none. -/
def Launch.result (l : Launch) (s : SupplicantSettings) :
    Except SupplicantError (ControlChannel × EventChannel) := do
  if let some reason := l.directoryFault then
    throw (.startup s!"{s.socketDir}: {reason}")
  if let some reason := l.spawnFault then
    throw (.startup s!"spawn {s.binary}: {reason}")
  match l.wait with
  | .exited status => throw (.startup s!"supplicant exited during startup: {status}")
  | .timedOut =>
    throw (.startup (s!"control socket {socketPath s} did not appear within " ++
      duration s.startupTimeoutMs.toNat))
  | .appeared => pure ()
  if let some reason := l.connectFault then
    throw (connectFailure (socketPath s) reason)
  let events ← EventChannel.attach l.attachReplies
  return ({ timeoutMs := s.commandTimeoutMs.toNat }, events)

end WifiStation.Supplicant
