import WifiStation.Supplicant.Monitor

/-!
# WifiStation.Supplicant.Service

The supplicant as the other parts of the daemon see it.

A `Service` holds the monitor as long as it runs. Requests are taken one after the other, and so
are events, so nothing comes between the commands of one request. Once it has stopped, every
request fails and the published link has lost its source.
-/

namespace WifiStation.Supplicant

open WifiStation

/-- The monitor, and whether requests are still taken. -/
structure Service where
  monitor : Monitor
  running : Bool := true
  deriving Repr

namespace Service

/-- A service that no longer runs. -/
def gone (m : Monitor) : Service :=
  { monitor := { m with published := m.published.close }, running := false }

/-- Asks for a scan. -/
def scan (s : Service) : Dialogue (Except SupplicantError Unit) :=
  if s.running then Supplicant.scan else .done (.error .channelClosed)

/-- What the last scan has found. -/
def scanResults (s : Service) : Except SupplicantError (List ScanResult) :=
  if s.running then .ok s.monitor.scanResults else .error .channelClosed

/-- Joins the network of a profile. -/
def configure (s : Service) (profile : Profile) : Dialogue (Except SupplicantError Nat) :=
  if s.running then Supplicant.configure profile else .done (.error .channelClosed)

/-- The link. -/
def status (s : Service) : Except SupplicantError LinkState :=
  if s.running then .ok s.monitor.link else .error .channelClosed

/-- Takes notice of a record, if there is still a channel for it. -/
def handleRecord (s : Service) (record : String) : Dialogue Service :=
  if s.running && s.monitor.hasEvents then
    (s.monitor.handleRecord record).bind fun m => .done { s with monitor := m }
  else .done s

/-- The event channel fails, if there still is one. -/
def channelFailed (s : Service) (e : SupplicantError) : Service :=
  if s.running && s.monitor.hasEvents then { s with monitor := s.monitor.channelFailed e } else s

/-- The process ends, if there still is one. -/
def processEnded (s : Service) (status : String) : Service :=
  if s.running && s.monitor.hasProcess then
    { s with monitor := s.monitor.channelFailed (.exited status) }
  else s

/-- Stops the supplicant and takes no more requests. -/
def shutdown (s : Service) : Except SupplicantError Unit × Service :=
  if s.running then (.ok (), .gone s.monitor.stop) else (.error .channelClosed, s)

end Service

end WifiStation.Supplicant
