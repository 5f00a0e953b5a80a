import WifiStation.Settings.Error

/-!
# WifiStation.Profile.Store

The file that keeps the profile last configured.

No file is no profile, and no error; a file that cannot be read or made sense of is one. Saving
replaces the file.
-/

namespace WifiStation.Store

open WifiStation.Text

/-- The profile in the file. -/
def load (place : Place) : Except SettingsError (Option Profile) :=
  match place.readText with
  | .error .notFound => .ok none
  | .error e => .error (.place e)
  | .ok content =>
    match Stored.read content with
    | .error e => .error (.stored e)
    | .ok profile => .ok profile

/-- With the profile in the file. -/
def save (place : Place) (profile : Profile) : Except SettingsError Place :=
  match place.write (Utf8.encode (Stored.render (some profile)).toList) with
  | .error e => .error (.place e)
  | .ok place => .ok place

end WifiStation.Store
