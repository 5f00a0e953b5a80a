import WifiStation.Link
import WifiStation.Supplicant.Command
import WifiStation.Supplicant.Event
import WifiStation.Watch

/-!
# WifiStation.Supplicant.Monitor

What the daemon knows of the supplicant.

The link follows the events, one after the other, and a failure of the supplicant takes it down.
Every change of the link is published (`Monitor.published`), also one to the same state. The state
of the process and of the channels is no more than whether they are there; talking goes through
`Monitor.talk`, which needs a control channel.
-/

namespace WifiStation.Supplicant

open WifiStation

/-- What is known of the supplicant. -/
structure Monitor where
  /-- Whether there is a control channel. -/
  hasControl : Bool := false
  /-- Whether there is an event channel. -/
  hasEvents : Bool := false
  /-- Whether there is a process to end. -/
  hasProcess : Bool := false
  link : LinkState := {}
  /-- What the last scan has found. -/
  scanResults : List ScanResult := []
  /-- The link as others follow it. -/
  published : Watch LinkState := { value := {} }
  deriving Repr

namespace Monitor

/-- The monitor over open channels, without a process. -/
def ofChannels : Monitor := { hasControl := true, hasEvents := true }

/-- Talks over a channel, if there is one. -/
def talk {σ α : Type} (m : Monitor) (channel : σ → String → Outcome × σ) (d : Dialogue α) (s : σ) :
    α × σ :=
  if m.hasControl then d.run channel s else (d.unheard, s)

/-! ### The link -/

/-- Publishes the link. -/
def publish (m : Monitor) : Monitor := { m with published := m.published.write m.link }

/-- The link is up or down. -/
def setConnected (m : Monitor) (connected : Bool) : Monitor :=
  publish { m with link := { m.link with connected } }

/-- The last error is another one. -/
def setLastError (m : Monitor) (error : String) : Monitor :=
  { m with link := { m.link with lastError := some error } }

/-- The link is down because starting has failed. -/
def recordStartupFailure (m : Monitor) (e : SupplicantError) : Monitor :=
  (m.setLastError e.message).setConnected false

/-! ### Events -/

/-- Replaces the scan results by what the supplicant says. -/
def refreshScanResults (m : Monitor) : Dialogue Monitor :=
  fetchScanResults.bind fun results => .done { m with scanResults := results }

/-- Takes notice of an event. -/
def handleEvent (m : Monitor) (e : Event) : Dialogue Monitor :=
  match e.kind with
  | .scanResults => m.refreshScanResults
  | .connected => .done (m.setConnected true)
  | .disconnected => .done (m.setConnected false)
  | .ssidTempDisabled =>
    .done (match e.fields.get? "reason" with
      | some reason => (m.setLastError reason).publish
      | none => m)
  | .other _ => .done m

/-- Takes notice of a record; one that is no event is passed over. -/
def handleRecord (m : Monitor) (record : String) : Dialogue Monitor :=
  match Event.read? record.toList with
  | some e => m.handleEvent e
  | none => .done m

/-- There are no more events. If the process has ended there are no more commands either, and that
is the last error. -/
def channelFailed (m : Monitor) (e : SupplicantError) : Monitor :=
  let m := { m with hasEvents := false }
  let m := match e with
    | .exited _ => { m.setLastError e.message with hasProcess := false, hasControl := false }
    | _ => m
  m.setConnected false

/-! ### Beginning and end -/

/-- The process runs and both channels are open. -/
def start (m : Monitor) : Monitor :=
  { m with hasControl := true, hasEvents := true, hasProcess := true }

/-- Both channels are closed and the process is ended. -/
def stop (m : Monitor) : Monitor :=
  { m with hasControl := false, hasEvents := false, hasProcess := false }.setConnected false

end Monitor

end WifiStation.Supplicant
