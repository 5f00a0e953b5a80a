import WifiStation.Json.Record
import WifiStation.Profile.Basic

/-!
# WifiStation.Profile.Stored

The file that keeps a profile: a JSON object with the profile under one name, so that other
members may be added.

* `Stored.render` writes it.
* `Stored.read` accepts what `render` writes, with any other members, and a file without a profile
  (the member missing or null). Like every record it may also be given as an array.
-/

namespace WifiStation.Stored

open WifiStation

/-- The name of the member that holds the profile. -/
def profileName : String := "network_config"

/-- The profile as a value. -/
def profileJson (p : Profile) : Json :=
  .object [("ssid", .string p.ssid.text), ("psk", .string p.psk.text)]

/-- The content of a file as a value. -/
def json : Option Profile → Json
  | some p => .object [(profileName, profileJson p)]
  | none => .object []

/-- The text of a file. -/
def render (stored : Option Profile) : String := (json stored).pretty

/-! ### Reading -/

/-- Why a text is not the content of a file. -/
abbrev StoredError := ReadError TextError

/-- The error as text, for the errors that have one. -/
def message? (e : StoredError) : Option String := ReadError.message? TextError.message e

/-- The profile of a tree. -/
def profileOf (t : Tree) : Except StoredError Profile :=
  match t.pair "ssid" "psk" Ssid.ofText Passphrase.ofText with
  | .error e => .error e
  | .ok (ssid, psk) => .ok ⟨ssid, psk⟩

/-- The profile of a tree, `none` for null. -/
def optionalOf : Tree → Except StoredError (Option Profile)
  | .null => .ok none
  | t =>
    match profileOf t with
    | .error e => .error e
    | .ok p => .ok (some p)

/-- The profile among members: `found` is what the name has given so far. -/
def ofMembers (closed : Bool) (found : Option (Option Profile)) :
    List (TreeText × Tree) → Except StoredError (Option Profile)
  | [] => if closed then .ok (found.getD none) else .error .syntaxFault
  | (none, _) :: _ => .error .syntaxFault
  | (some name, t) :: rest =>
    if name = profileName then
      if found.isSome then .error (.duplicateField profileName)
      else match optionalOf t with
        | .error e => .error e
        | .ok p => ofMembers closed (some p) rest
    else ofMembers closed found rest

/-- The profile of a file's tree. -/
def ofTree : Tree → Except StoredError (Option Profile)
  | .object members closed => ofMembers closed none members
  | .array [] closed => if closed then .ok none else .error .syntaxFault
  | .array (t :: ts) closed =>
    match optionalOf t with
    | .error e => .error e
    | .ok p => if ts.isEmpty && closed then .ok p else .error .syntaxFault
  | t => .error t.mismatch

/-- The profile of a file's text. -/
def read (content : String) : Except StoredError (Option Profile) :=
  let (t, clean) := Tree.read content.toList
  match ofTree t with
  | .error e => .error e
  | .ok p => if clean then .ok p else .error .syntaxFault

end WifiStation.Stored
