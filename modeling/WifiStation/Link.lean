import WifiStation.Json.Value

/-!
# WifiStation.Link

The state of the wireless link, as far as the supplicant has told.
-/

namespace WifiStation

/-- The state of the link. -/
structure LinkState where
  connected : Bool := false
  /-- The last reason for which there was no connection. -/
  lastError : Option String := none
  deriving DecidableEq, Repr, Inhabited

/-- The report of the link. -/
def LinkState.json (l : LinkState) : Json :=
  .object (("connected", .bool l.connected) ::
    match l.lastError with
    | some e => [("lasterror", .string e)]
    | none => [])

end WifiStation
