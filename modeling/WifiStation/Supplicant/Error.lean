import WifiStation.Text.Quoted

/-!
# WifiStation.Supplicant.Error

What can go wrong with the supplicant, with the text of each failure.
-/

namespace WifiStation.Supplicant

open WifiStation.Text

/-- A failure of the supplicant or of the way to it. -/
inductive SupplicantError where
  /-- It could not be started. -/
  | startup (reason : String)
  /-- A command got no reply. Only the first word of the command is kept. -/
  | command (verb reason : String)
  /-- A step of a configuration was answered with something else than expected. -/
  | configurationRejected (step reply : String)
  /-- It ended. -/
  | exited (status : String)
  /-- There is no control channel. -/
  | notStarted
  /-- There is nothing at the other end of a channel any more. -/
  | channelClosed
  deriving DecidableEq, Repr, Inhabited

/-- The error as text. -/
def SupplicantError.message : SupplicantError → String
  | startup reason => s!"supplicant startup failed: {reason}"
  | command verb reason => s!"supplicant command {verb} failed: {reason}"
  | configurationRejected step reply =>
    s!"supplicant rejected configuration at {step}: {quote reply}"
  | exited status => s!"supplicant exited: {status}"
  | notStarted => "supplicant is not started"
  | channelClosed => "supplicant service channel closed"

end WifiStation.Supplicant
