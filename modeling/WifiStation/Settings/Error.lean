import WifiStation.Place
import WifiStation.Profile.Stored

/-!
# WifiStation.Settings.Error

Why the settings or the stored profile could not be had.
-/

namespace WifiStation

/-- A file of the daemon's could not be read, written, or made sense of. -/
inductive SettingsError where
  | place (e : PlaceError)
  /-- The settings are no document, or a field is of another type. -/
  | malformed
  /-- The stored profile cannot be read. -/
  | stored (e : Stored.StoredError)
  | invalid (reason : String)
  deriving DecidableEq, Repr, Inhabited

/-- The error as text. -/
def SettingsError.message : SettingsError → String
  | place e => s!"failed to read config file: {e.message}"
  | malformed => "failed to parse TOML"
  | stored e => "failed to parse JSON: " ++ (Stored.message? e).getD "malformed content"
  | invalid reason => s!"validation error: {reason}"

end WifiStation
