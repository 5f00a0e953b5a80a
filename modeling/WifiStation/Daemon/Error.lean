import WifiStation.Dhcp.Transport
import WifiStation.Settings.Error
import WifiStation.Supplicant.Error

/-!
# WifiStation.Daemon.Error

Why the daemon could not be started or go on.
-/

namespace WifiStation

open WifiStation.Net WifiStation.Dhcp WifiStation.Supplicant

/-- A failure of the daemon. -/
inductive DaemonError where
  | startup (reason : String)
  | socket (reason : String)
  | settings (e : SettingsError)
  | supplicant (e : SupplicantError)
  | kernel (e : KernelError)
  | dhcp (e : TransportError)
  deriving DecidableEq, Repr

/-- The error as text; a failure of a part is told in the words of the part. -/
def DaemonError.message : DaemonError → String
  | startup reason => s!"daemon startup failed: {reason}"
  | socket reason => s!"IO error: {reason}"
  | settings e => e.message
  | supplicant e => e.message
  | kernel e => e.message
  | dhcp e => e.message

end WifiStation
