import WifiStation.Profile.Basic
import WifiStation.Supplicant.Dialogue
import WifiStation.Supplicant.Scan
import WifiStation.Text.Number

/-!
# WifiStation.Supplicant.Command

The dialogues that the daemon has with the supplicant.

* `configure` makes a network, fills it in, and selects it. It stops at the first reply that is not
  as expected, so a later command is sent only if all before it were accepted.
* Name and passphrase stand between double quotes, which they cannot contain; see `Profile`.
-/

namespace WifiStation.Supplicant

open WifiStation WifiStation.Text

/-- The highest number of a network. -/
def maxNetworkId : Nat := 255

/-- The mode of a network that the station joins. -/
def stationMode : Nat := 0

/-! ### Texts of commands -/

/-- Makes a network; the reply is its number. -/
def addCommand : String := "ADD_NETWORK"

/-- Gives a network its name. -/
def ssidCommand (id : Nat) (ssid : Ssid) : String :=
  s!"SET_NETWORK {id} ssid \"" ++ ssid.text ++ "\""

/-- Gives a network its passphrase. -/
def pskCommand (id : Nat) (psk : Passphrase) : String :=
  s!"SET_NETWORK {id} psk \"" ++ psk.text ++ "\""

/-- Gives a network its mode. -/
def modeCommand (id mode : Nat) : String := s!"SET_NETWORK {id} mode {mode}"

/-- Makes a network the one to join. -/
def selectCommand (id : Nat) : String := s!"SELECT_NETWORK {id}"

/-! ### Dialogues -/

/-- The number of a network in a reply: up to 255, with blanks around it. -/
def networkId? (reply : String) : Option Nat :=
  (unsigned? 10 (2 ^ 32) (trim reply.toList)).filter (· ≤ maxNetworkId)

/-- Makes a network and takes its number. -/
def newNetwork : Dialogue (Except SupplicantError Nat) :=
  (send addCommand true).andThen fun reply =>
    .done (match networkId? reply with
      | some id => .ok id
      | none => .error (.configurationRejected addCommand reply))

/-- Makes a network and fills it in. -/
def addNetwork (profile : Profile) (mode : Nat) : Dialogue (Except SupplicantError Nat) :=
  newNetwork.andThen fun id =>
    (expectOk (ssidCommand id profile.ssid) "ssid").andThen fun _ =>
      (expectOk (pskCommand id profile.psk) "psk").andThen fun _ =>
        (expectOk (modeCommand id mode) "mode").andThen fun _ => .done (.ok id)

/-- Makes a network the one to join. -/
def selectNetwork (id : Nat) : Dialogue (Except SupplicantError Unit) :=
  expectOk (selectCommand id) "SELECT_NETWORK"

/-- Makes a network for a profile and joins it. -/
def configure (profile : Profile) : Dialogue (Except SupplicantError Nat) :=
  (addNetwork profile stationMode).andThen fun id =>
    (selectNetwork id).andThen fun _ => .done (.ok id)

/-- Asks for a scan. Whether the supplicant takes it up is not looked at. -/
def scan : Dialogue (Except SupplicantError Unit) :=
  (send "SCAN" true).andThen fun _ => .done (.ok ())

/-- Asks for what the last scan has found; nothing if the command fails. -/
def fetchScanResults : Dialogue (List ScanResult) :=
  (send "SCAN_RESULTS" false).bind fun
    | .ok text => .done (ScanResult.readAll text.toList)
    | .error _ => .done []

end WifiStation.Supplicant
