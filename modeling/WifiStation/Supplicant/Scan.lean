import WifiStation.Net.Mac

/-!
# WifiStation.Supplicant.Scan

The reply to `SCAN_RESULTS`: one network a line, with address, frequency, signal level, flags in
brackets, and the name.

* `ScanResult.read?` accepts a line of four words and a name of at most 32 bytes, which may be
  empty and may hold blanks inside.
* `ScanResult.readAll` keeps the lines that are accepted, so the heading and a line that was cut
  off in the middle of its flags drop out.
* `Capabilities` is the set of known flags, as bits; a token that is no known flag adds nothing.
-/

namespace WifiStation.Supplicant

open WifiStation.Text WifiStation.Net

/-! ### Capabilities -/

/-- A known flag. The mixed ones allow both ciphers. -/
inductive Capability where
  | ess
  | wps
  | wep
  | wpaCcmp
  | wpaMixed
  | wpa2Ccmp
  | wpa2Mixed
  deriving DecidableEq, Repr, Inhabited

namespace Capability

/-- The flags in the order of their bits. -/
def all : List Capability := [ess, wps, wep, wpaCcmp, wpaMixed, wpa2Ccmp, wpa2Mixed]

/-- The position of the bit. -/
def index : Capability → Nat
  | ess => 0
  | wps => 1
  | wep => 2
  | wpaCcmp => 3
  | wpaMixed => 4
  | wpa2Ccmp => 5
  | wpa2Mixed => 6

/-- The name of a flag. -/
def name : Capability → String
  | ess => "ESS"
  | wps => "WPS"
  | wep => "WEP"
  | wpaCcmp => "WPA-PSK-CCMP"
  | wpaMixed => "WPA-PSK-CCMP+TKIP"
  | wpa2Ccmp => "WPA2-PSK-CCMP"
  | wpa2Mixed => "WPA2-PSK-CCMP+TKIP"

/-- The flag of a token: a name, or the name of a mixed flag with a dash for the plus. -/
def ofToken? (token : String) : Option Capability :=
  if token = "WPA-PSK-CCMP-TKIP" then some wpaMixed
  else if token = "WPA2-PSK-CCMP-TKIP" then some wpa2Mixed
  else all.find? (·.name = token)

@[simp] theorem ofToken?_name (c : Capability) : ofToken? c.name = some c := by
  cases c <;> decide

end Capability

/-- A set of flags, one bit each. -/
structure Capabilities where
  bits : BitVec 7
  deriving DecidableEq, Repr, Inhabited

namespace Capabilities

/-- No flag. -/
def empty : Capabilities := ⟨0⟩

/-- One flag. -/
def single (c : Capability) : Capabilities := ⟨1#7 <<< c.index⟩

/-- The flags of both sets. -/
def union (a b : Capabilities) : Capabilities := ⟨a.bits ||| b.bits⟩

/-- Whether every flag of `b` is in `a`. -/
def contains (a b : Capabilities) : Bool := a.bits &&& b.bits == b.bits

/-- The names of the flags, in the order of their bits. -/
def names (s : Capabilities) : List String :=
  (Capability.all.filter fun c => s.contains (single c)).map Capability.name

/-- The known flags among tokens. -/
def ofTokens (tokens : List String) : Capabilities :=
  (tokens.filterMap Capability.ofToken?).foldl (fun s c => s.union (single c)) empty

end Capabilities

/-- The tokens of a run of brackets. The first argument is what the current bracket holds so far,
last character first, or `none` outside brackets. -/
def tokensFrom : Option (List Char) → List Char → Option (List (List Char))
  | none, [] => some []
  | none, c :: rest => if c = '[' then tokensFrom (some []) rest else none
  | some _, [] => none
  | some held, c :: rest =>
    if c = ']' then (tokensFrom none rest).map (held.reverse :: ·)
    else if c = '[' then none
    else tokensFrom (some (c :: held)) rest

/-- The tokens of one or more brackets with nothing between them. -/
def bracketed? (s : List Char) : Option (List (List Char)) :=
  if s.isEmpty then none else tokensFrom none s

/-! ### Results -/

/-- The longest network name, in bytes. -/
def maxNameBytes : Nat := 32

/-- A network that a scan has found. -/
structure ScanResult where
  bssid : Mac
  /-- In megahertz. -/
  frequency : UInt32
  /-- The signal level. -/
  rssi : Int
  flags : Capabilities
  ssid : String
  deriving DecidableEq, Repr, Inhabited

namespace ScanResult

/-- A frequency: decimal digits of a 32-bit word. -/
def frequency? (s : List Char) : Option UInt32 :=
  ((digits? 10 s).filter (· < 2 ^ 32)).map UInt32.ofNat

/-- Reads one line. -/
def read? (line : List Char) : Option ScanResult := do
  let (address, rest) ← word? line
  let bssid ← Mac.read? address
  let (frequency, rest) ← word? rest
  let frequency ← frequency? frequency
  let (level, rest) ← word? rest
  let rssi ← signed? 32 level
  let (flags, rest) ← word? rest
  let tokens ← bracketed? flags
  let ssid := String.ofList (trim rest)
  if ssid.utf8ByteSize ≤ maxNameBytes then
    return { bssid, frequency, rssi, flags := .ofTokens (tokens.map String.ofList), ssid }
  else none

/-- Reads the lines that are results. -/
def readAll (text : List Char) : List ScanResult := (lines text).filterMap read?

end ScanResult

end WifiStation.Supplicant
